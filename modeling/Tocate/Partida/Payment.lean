import Tocate.Partida.Credit
import Tocate.Partida.Scores
import Tocate.MultPlayer.Steps

/-!
# The score shown and the score paid

When the countdown of a screen expires, `funcionGameover` takes the player's
score from the local match, for the winner and for the credit, and
`dialogo_Gameover` takes it from the counter.  A tap leaves both the same.  A
server snapshot replaces the match and leaves the counter.
-/

namespace Tocate.Partida

open Cloud

/-! ## What happens when a countdown expires -/

section Expira

variable {vista : BaseDatos} {m m' : MultPlayer} {t : ℕ} {ws : List Escritura}

/-- Match and record are there, and a window for the dialog. -/
def Mostrable (m : MultPlayer) : Prop :=
  (∃ j ∈ m.jugada, m.propio j ≠ none) ∧ (m.terminada = true → m.iniciada = true)

instance (m : MultPlayer) : Decidable (Mostrable m) :=
  inferInstanceAs (Decidable (_ ∧ (_ → _)))

/-- What is written and shown when the countdown expires: the credit is the
score of the local match, the dialog shows the counter. -/
theorem expira_muestra {d : Dialogo}
    (h : MultPlayer.react vista m (.onFinish t) = some (m', ws))
    (hd : m'.dialogos = m.dialogos ++ [d]) :
    ∃ j u, m.jugada = some j ∧ m.propio j = some u ∧
      ws = [.setJugada m.jugadaId (MultPlayer.coronada j),
        .setUser m.uid (u.acredita (MultPlayer.puntosDe j m.uid))] ∧
      d.tvPuntos = if j.jugadorUnoID = m.uid then m.cont1 else m.cont2 := by
  have hav : m.avanza (.evento vista (.onFinish t)) = some m' :=
    congrArg (Option.map Prod.fst) h
  have hdistinto : m'.dialogos ≠ m.dialogos := by
    rw [hd]
    exact fun heq => List.cons_ne_nil d [] (List.append_right_eq_self.mp heq)
  rcases MultPlayer.avanza_gameover rfl hav with ⟨-, hc⟩ | ⟨j, v, hj, hprop, hm'⟩
  · exact absurd hc.2 hdistinto
  obtain ⟨u, hu⟩ := Option.ne_none_iff_exists'.mp hprop
  have hws : ws = [.setJugada m.jugadaId (MultPlayer.coronada j),
      .setUser m.uid (u.acredita (MultPlayer.puntosDe j m.uid))] := by
    rcases MultPlayer.react_gameover rfl h with hc | ⟨k, hk, ht⟩
    · exact absurd hc.dialogos hdistinto
    · rw [hj] at hk
      cases hk
      rcases ht.credito with ⟨hno, -⟩ | ⟨w, hw, hws, -⟩
      · exact absurd hno hprop
      · rw [hu] at hw
        cases hw
        exact hws
  refine ⟨j, u, hj, hu, hws, ?_⟩
  generalize hx : MultPlayer.conPropio
    { m.alLlamar (.onFinish t) with jugada := some (MultPlayer.coronada j) } j v
      = x at hm'
  have hbase := MultPlayer.base_conPropio
    { m.alLlamar (.onFinish t) with jugada := some (MultPlayer.coronada j) } j v
  rw [hx] at hbase
  have hxj : x.jugada = some (MultPlayer.coronada j) := by
    rw [← hx, MultPlayer.conPropio_jugada]
  have hxd : x.dialogos = m.dialogos := by
    rw [← hx, MultPlayer.conPropio_dialogos]
    rfl
  simp only [MultPlayer.despues] at hm'
  rw [MultPlayer.dialogo_Gameover_eq true hxj] at hm'
  split at hm'
  · subst hm'
    exact absurd hxd hdistinto
  · rw [MultPlayer.cierra_sigue] at hm'
    subst hm'
    have heq : m.dialogos ++ [_] = m.dialogos ++ [d] :=
      (congrArg (· ++ [_]) hxd).symm.trans hd
    cases List.append_cancel_left heq
    show (if j.jugadorUnoID = x.uid then x.cont1 else x.cont2) = _
    rw [hbase.afin.uid, hbase.afin.cont1, hbase.afin.cont2]
    rfl

/-- When the dialog is opened. -/
theorem expira_abre (h : MultPlayer.react vista m (.onFinish t) = some (m', ws)) :
    (∃ d, m'.dialogos = m.dialogos ++ [d]) ↔ Mostrable m := by
  have hav : m.avanza (.evento vista (.onFinish t)) = some m' :=
    congrArg (Option.map Prod.fst) h
  have hno : m'.dialogos = m.dialogos →
      ¬∃ d, m'.dialogos = m.dialogos ++ [d] := by
    rintro heq ⟨d, hd⟩
    exact List.cons_ne_nil d []
      (List.append_right_eq_self.mp (hd.symm.trans heq))
  rcases MultPlayer.avanza_onFinish hav with ⟨hlista, hc⟩ |
    ⟨-, hter, hini, hc⟩ | ⟨hlista, hventana, -, -, habre, -⟩
  · exact iff_of_false (hno hc.2) fun hm => hlista hm.1
  · refine iff_of_false (hno hc.2) fun hm => ?_
    rw [hm.2 hter] at hini
    cases hini
  · exact iff_of_true habre ⟨hlista, hventana⟩

end Expira

/-! ## The last score a player has been told -/

/-- The own score in the last server snapshot that the screen of each player
has taken since he last tapped, carried along a run. -/
def visto (s : Estado) (a : Paso) (v : Lado → Option ℤ) : Lado → Option ℤ :=
  match a with
  | .event l (.mult (.clic _ _)) => Function.update v l none
  | .deliver l =>
      let recogida := (s.inbox l).head?.bind fun d =>
        MultPlayer.recogida (s.outbox l) d (s.client l)
      Function.update v l ((recogida.map (puntos l)).or (v l))
  | _ => v

abbrev pasoVisto : Estado × (Lado → Option ℤ) → Paso →
    Option (Estado × (Lado → Option ℤ)) :=
  Runs.ghost programa.step visto

/-- The dialog that is opened when a countdown expires shows the number that is
added to the points of the player, which is his score in the match whose winner
is stored. -/
def MismoTotal (s : Estado) : Paso → Prop
  | .event l (.mult (.onFinish t)) =>
      ∀ m' ws d, react s.server (programa.view s l) (s.client l)
          (.mult (.onFinish t)) = some (m', ws) →
        m'.dialogos = (s.client l).dialogos ++ [d] →
        ∃ j u, registro l (s.client l) = some u ∧ puntos l j = d.tvPuntos ∧
          ws = [.setJugada (s.client l).jugadaId (MultPlayer.coronada j),
            .setUser (s.client l).uid (u.acredita d.tvPuntos)]
  | _ => True

/-- When a countdown expires, the player has taken no server snapshot since he
last tapped, or the last one shows his counter as his score. -/
def Confirmado (q : Estado × (Lado → Option ℤ)) (a : Paso) : Prop :=
  ∀ l ∈ vence? a, Mostrable (q.1.client l) →
    ∀ x ∈ q.2 l, x = contador l (q.1.client l)

instance (q : Estado × (Lado → Option ℤ)) (a : Paso) :
    Decidable (Confirmado q a) :=
  inferInstanceAs (Decidable (∀ l ∈ vence? a, _ → ∀ x ∈ q.2 l, _))

/-- The local match has the score that the player was last told, or else his
counter. -/
def Copiada (l : Lado) (m : MultPlayer) (v : Option ℤ) : Prop :=
  ∀ j, m.jugada = some j → puntos l j = v.getD (contador l m)

/-- What a run keeps of the two screens. -/
structure Seguida (p : Partida) (q : Estado × (Lado → Option ℤ)) : Prop where
  asientos : (asientos p).Holds q.1
  copiada : ∀ l, Copiada l (q.1.client l) (q.2 l)

section Handlers

variable {l : Lado} {m m' : MultPlayer} {ws : List Escritura} {v : Option ℤ}

theorem copiada_toque {imagen : Imagen} {aleatorio : Fin 3} {j : Jugada}
    (ht : MultPlayer.Toque m imagen aleatorio j m' ws) : Copiada l m' none := by
  intro k hk
  rw [ht.jugada] at hk
  cases hk
  show _ = contador l m'
  unfold contador
  rw [ht.cont1, ht.cont2]
  rfl

theorem Copiada.termina (h : Copiada l m v) {e : MultPlayer.Suceso} {j : Jugada}
    (hj : (m.alLlamar e).jugada = some j)
    (ht : MultPlayer.Termina (m.alLlamar e) j m' ws) : Copiada l m' v := by
  have hcont : contador l m' = contador l m := by
    unfold contador
    rw [ht.base.afin.cont1, ht.base.afin.cont2, MultPlayer.alLlamar_cont1,
      MultPlayer.alLlamar_cont2]
  obtain ⟨i, hi, hsame⟩ := m.alLlamar_jugada e hj
  intro k hk
  rw [ht.jugada] at hk
  cases hk
  rw [hcont, ← h i hi]
  rcases hsame with rfl | ⟨-, rfl⟩
  · rfl
  · rfl

theorem Copiada.quieta (h : Copiada l m v) (hq : MultPlayer.Quieta m m' ws) :
    Copiada l m' v := by
  intro j hj
  rw [hq.jugada] at hj
  rw [h j hj]
  unfold contador
  rw [hq.cont1, hq.cont2]

theorem copiada_recibe {j : Jugada} (hrec : MultPlayer.Recibe m j m') :
    Copiada l m' (some (puntos l j)) := by
  intro k hk
  rw [hrec.jugada] at hk
  cases hk
  rfl

end Handlers

/-- Only a tap of the player or a snapshot on his screen changes what he has
been told. -/
theorem visto_ajeno {s : Estado} {a : Paso} {v : Lado → Option ℤ} {k : Lado}
    (hclic : ∀ imagen aleatorio, a ≠ .event k (.mult (.clic imagen aleatorio)))
    (hdel : a ≠ .deliver k) : visto s a v k = v k := by
  unfold visto
  split
  next l imagen aleatorio =>
    refine Function.update_of_ne (fun heq => ?_) _ _
    exact hclic imagen aleatorio (by rw [heq])
  next l =>
    refine Function.update_of_ne (fun heq => ?_) _ _
    exact hdel (by rw [heq])
  · rfl

/-- One event on the screen of player `k`. -/
theorem Copiada.event {s : Estado} {k : Lado} {e : Suceso}
    {v : Lado → Option ℤ} {m' : MultPlayer} {ws : List Escritura}
    (h : Copiada k (s.client k) (v k))
    (hreact : react s.server (programa.view s k) (s.client k) e =
      some (m', ws)) :
    Copiada k m' (visto s (.event k e) v k) := by
  have hdel : Cloud.Action.event k e ≠ .deliver k := nofun
  rcases react_efecto hreact with ⟨imagen, aleatorio, j, rfl, ht⟩ |
    ⟨e', j, rfl, hgame, hj, ht⟩ | ⟨e', rfl, hno, hq⟩ | ⟨rfl, j, w, -, -, -, hw⟩
  · simp only [visto, Function.update_self]
    exact copiada_toque ht
  · rw [visto_ajeno ?_ hdel]
    · exact h.termina hj ht
    · rintro imagen aleatorio ⟨⟩
      cases hgame
  · rcases hno with hcallado | hnone
    · rw [visto_ajeno ?_ hdel]
      · exact h.quieta hq
      · rintro imagen aleatorio ⟨⟩
        cases hcallado
    · -- there is no match to tap yet
      intro j hj
      rw [hq.jugada, hnone] at hj
      cases hj
  · rw [visto_ajeno ?_ hdel]
    · exact h
    · rintro imagen aleatorio ⟨⟩
      rcases hw with ⟨hw, -⟩ | ⟨hw, -⟩ | ⟨hw, -⟩ <;> cases hw

theorem Copiada.deliver {s : Estado} {k : Lado} {v : Lado → Option ℤ}
    {d : BaseDatos} {rest : List BaseDatos}
    (h : Copiada k (s.client k) (v k)) (hbox : s.inbox k = d :: rest) :
    Copiada k (MultPlayer.snapshot (s.outbox k) d (s.client k)).1
      (visto s (.deliver k) v k) := by
  simp only [visto, hbox, List.head?_cons, Option.bind_some,
    Function.update_self]
  cases hrec : MultPlayer.recogida (s.outbox k) d (s.client k) with
  | none =>
      rw [MultPlayer.snapshot_of_not_recogida hrec]
      exact h
  | some j =>
      obtain ⟨m', hsnap, hrecibe⟩ := MultPlayer.snapshot_of_recogida hrec
      rw [hsnap]
      exact copiada_recibe hrecibe

theorem Seguida.step {p : Partida} {q q' : Estado × (Lado → Option ℤ)}
    {a : Paso} (h : p.Seguida q) (hstep : pasoVisto q a = some q') :
    p.Seguida q' := by
  obtain ⟨hs, hv⟩ := Runs.ghost_eq_some hstep
  refine ⟨asientos_step h.asientos hs, fun k => ?_⟩
  have hk := h.copiada k
  rw [hv]
  rcases Program.step_at hs k with ⟨e, ⟨m', ws⟩, rfl, hr, hs'⟩ |
    ⟨w, ws, rfl, -, hs'⟩ | ⟨w, ok, rest, rfl, -, hs'⟩ |
    ⟨d, rest, rfl, hbox, hs'⟩ | hidle
  · rw [hs', Program.settle_client_self]
    exact hk.event hr
  · rw [hs']
    exact hk
  · rw [hs', Program.settle_client_self]
    exact hk
  · rw [hs', Program.settle_client_self]
    exact hk.deliver hbox
  · rw [hidle.client, visto_ajeno (fun _ _ => hidle.event _) hidle.deliver]
    exact hk

theorem ite_uid_eq_lado (p : Partida) (l : Lado) (x : ℤ × ℤ) :
    (if p.uno = p.uid l then x.1 else x.2) = lado l x := by
  cases l with
  | uno => exact if_pos rfl
  | dos => exact if_neg p.uno_ne_dos

/-- What is written and shown on the screen of player `l` when its countdown
expires. -/
theorem Jugador.expira {p : Partida} {l : Lado} {vista : BaseDatos}
    {m m' : MultPlayer} {t : ℕ} {ws : List Escritura} {d : Dialogo}
    (hm : p.Jugador l m)
    (h : MultPlayer.react vista m (.onFinish t) = some (m', ws))
    (hd : m'.dialogos = m.dialogos ++ [d]) :
    ∃ j u, m.jugada = some j ∧ registro l m = some u ∧
      ws = [.setJugada m.jugadaId (MultPlayer.coronada j),
        .setUser m.uid (u.acredita (puntos l j))] ∧
      d.tvPuntos = contador l m := by
  obtain ⟨j, u, hj, hu, hws, hshown⟩ := expira_muestra h hd
  have hsent := hm.jugada j hj
  rw [hm.propio_registro hsent] at hu
  unfold MultPlayer.puntosDe at hws
  rw [hsent.1, hm.uid] at hws hshown
  rw [hm.uid]
  rw [p.ite_uid_eq_lado l (j.puntosjugadorUnoID, j.puntosjugadorDosID)] at hws
  rw [p.ite_uid_eq_lado l (m.cont1, m.cont2)] at hshown
  exact ⟨j, u, hj, hu, hws, hshown⟩

/-- One step: the number shown is the number paid exactly when the counter has
not been contradicted. -/
theorem Seguida.mismoTotal_iff {p : Partida} {q q' : Estado × (Lado → Option ℤ)}
    {a : Paso} (h : p.Seguida q) (hstep : pasoVisto q a = some q') :
    MismoTotal q.1 a ↔ Confirmado q a := by
  obtain ⟨hs, -⟩ := Runs.ghost_eq_some hstep
  unfold MismoTotal
  split
  next l t =>
    obtain ⟨⟨m', ws⟩, hreact, -⟩ := Program.step_event hs
    have hmult : MultPlayer.react (programa.view q.1 l) (q.1.client l)
        (.onFinish t) = some (m', ws) := hreact
    obtain ⟨hjug, -⟩ := h.asientos.clients l
    have hcopia := h.copiada l
    constructor
    · rintro htotal k ⟨⟩ habre x hx
      obtain ⟨d, hd⟩ := (expira_abre hmult).mpr habre
      obtain ⟨j, u, hj, -, hws, hshown⟩ := hjug.expira hmult hd
      obtain ⟨k, u', -, hpuntos, hws'⟩ := htotal m' ws d hreact hd
      -- the match that is written tells the score that was credited
      have hcorona : MultPlayer.coronada j = MultPlayer.coronada k := by
        rw [hws] at hws'
        simp only [List.cons.injEq, Escritura.setJugada.injEq] at hws'
        exact hws'.1.2
      have hmismo : puntos l j = puntos l k :=
        show puntos l (MultPlayer.coronada j) =
          puntos l (MultPlayer.coronada k) from congrArg (puntos l) hcorona
      rw [← hshown, ← hpuntos, ← hmismo, hcopia j hj, hx]
      rfl
    · intro hok m'' ws' d hreact' hd
      have heq := hreact.symm.trans hreact'
      simp only [Option.some.injEq, Prod.mk.injEq] at heq
      obtain ⟨rfl, rfl⟩ := heq
      obtain ⟨j, u, hj, hu, hws, hshown⟩ := hjug.expira hmult hd
      have hpuntos : puntos l j = d.tvPuntos := by
        rw [hcopia j hj, hshown]
        cases hv : q.2 l with
        | none => rfl
        | some x => exact hok l rfl ((expira_abre hmult).mp ⟨d, hd⟩) x hv
      refine ⟨j, u, hu, hpuntos, ?_⟩
      rw [hws, hpuntos]
  next hno =>
    refine iff_of_true trivial fun l hl => ?_
    obtain ⟨t, rfl⟩ := vence?_eq_some hl
    exact absurd rfl (hno l t)

theorem seguida_run {p : Partida} {q q' : Estado × (Lado → Option ℤ)}
    {acts : List Paso} (h : p.Seguida q)
    (hrun : Runs.run pasoVisto q acts = some q') : p.Seguida q' := by
  apply Runs.invariant_of_step ?_ h hrun
  intro q a q' hq hstep
  exact hq.step hstep

theorem seguida_inicial {p : Partida} {db : BaseDatos} (h : p.Abierta db) :
    p.Seguida (p.inicial db, fun _ => none) :=
  ⟨asientos_inicial h, fun _ => nofun⟩

/-- In every run of a match the dialog that an expired countdown opens shows
what is added to the points of the player, and the score that decides the
match, exactly when no server snapshot has told the player another score since
he last tapped. -/
theorem mismo_total_iff {p : Partida} {db : BaseDatos} {acts : List Paso}
    {q : Estado × (Lado → Option ℤ)} (hdb : p.Abierta db)
    (hrun : Runs.run pasoVisto (p.inicial db, fun _ => none) acts = some q) :
    Runs.Along pasoVisto (fun q a => MismoTotal q.1 a)
        (p.inicial db, fun _ => none) acts ↔
      Runs.Along pasoVisto Confirmado (p.inicial db, fun _ => none) acts :=
  Runs.Along.congr (I := p.Seguida) (fun _ _ _ h hstep => h.step hstep)
    (fun _ _ _ h hstep => h.mismoTotal_iff hstep) (seguida_inicial hdb) hrun

/-- Ana scores once and her countdown expires. -/
def cobraLoSuyo : List Paso :=
  entra .uno ++ entra .dos ++
    [.event .uno (.mult (.clic .IvjUno (sale 0))), .arrive .uno, .deliver .uno,
      .event .uno (.mult (.onFinish 0))]

theorem mismo_total_ana :
    (Runs.run pasoVisto (deAyB.inicial baseAyB, fun _ => none)
        cobraLoSuyo).isSome = true ∧
      Runs.Along pasoVisto (fun q a => MismoTotal q.1 a)
        (deAyB.inicial baseAyB, fun _ => none) cobraLoSuyo := by
  obtain ⟨q, hrun⟩ := Option.isSome_iff_exists.mp
    (show (Runs.run pasoVisto (deAyB.inicial baseAyB, fun _ => none)
      cobraLoSuyo).isSome = true by decide)
  refine ⟨?_, (mismo_total_iff ⟨_, rfl, rfl, Or.inr rfl⟩ hrun).mpr (by decide)⟩
  rw [hrun]
  rfl

/-- Ana scores, a tap of Blas overwrites her score, and her countdown expires:
her dialog shows one point, and none is added. -/
theorem ana_cobra_menos :
    ∃ q q', Runs.run pasoVisto (deAyB.inicial baseAyB, fun _ => none)
        toqueConContadorViejo = some q ∧
      pasoVisto q (.event .uno (.mult (.onFinish 0))) = some q' ∧
      (q'.1.client .uno).dialogos.map Dialogo.tvPuntos = [1] ∧
      ((programa.view q'.1 .uno).users "a").map User.points = some 0 ∧
      ¬MismoTotal q.1 (.event .uno (.mult (.onFinish 0))) := by
  have hfin : (Runs.run pasoVisto (deAyB.inicial baseAyB, fun _ => none)
      toqueConContadorViejo).bind (fun q =>
        (pasoVisto q (.event .uno (.mult (.onFinish 0)))).map fun q' =>
          ((q'.1.client .uno).dialogos.map Dialogo.tvPuntos,
            ((programa.view q'.1 .uno).users "a").map User.points,
            decide (Confirmado q (.event .uno (.mult (.onFinish 0)))))) =
      some ([1], some 0, false) := by decide
  obtain ⟨q, hrun, hq⟩ := Option.bind_eq_some_iff.mp hfin
  obtain ⟨q', hstep, h⟩ := Option.map_eq_some_iff.mp hq
  simp only [Prod.mk.injEq, decide_eq_false_iff_not] at h
  obtain ⟨hshown, hpoints, hno⟩ := h
  have hseguida : deAyB.Seguida q :=
    seguida_run (seguida_inicial ⟨_, rfl, rfl, Or.inr rfl⟩) hrun
  exact ⟨q, q', hrun, hstep, hshown, hpoints,
    fun htotal => hno ((hseguida.mismoTotal_iff hstep).mp htotal)⟩

end Tocate.Partida
