import Tocate.MultPlayer.Taps
import Tocate.Partida.Result

/-!
# Scores

Every write of a match stores both scores, the player's own from the counter of
his screen and the other one from the local copy or, on one branch of the click
handlers, from a counter that nobody has brought up to date.  The scores add up
as long as a screen writes while nothing of the other one is in flight and what
it writes for the other player is what the server has.
-/

namespace Tocate.Partida

open Cloud

/-- The part of a pair of scores that belongs to player `l`. -/
def lado : Lado → ℤ × ℤ → ℤ
  | .uno, x => x.1
  | .dos, x => x.2

def puntos (l : Lado) (j : Jugada) : ℤ :=
  lado l (j.puntosjugadorUnoID, j.puntosjugadorDosID)

def contador (l : Lado) (m : MultPlayer) : ℤ := lado l (m.cont1, m.cont2)

/-- The score of player `l` that the database shows. -/
def marcador (p : Partida) (l : Lado) (db : BaseDatos) : ℤ :=
  lado l (p.marca db).2

def imagenPropia : Lado → Imagen
  | .uno => .IvjUno
  | .dos => .IvjDos

/-- Where a tap takes the score of the other player from: from the copy, unless
the order is the opening one and the tap misses the player's own image. -/
def puntosAjenos (l : Lado) (m : MultPlayer) (imagen : Imagen) (j : Jugada) :
    ℤ :=
  if m.n = 1 ∨ m.n = 2 ∨ (m.n = 0 ∧ imagen = imagenPropia l) then
    puntos l.otro j
  else contador l.otro m

/-- What a tap adds to or takes from the counter of the player who taps. -/
def incremento (l : Lado) (m : MultPlayer) (imagen : Imagen) (j : Jugada) : ℤ :=
  lado l (m.cuenta imagen j) - contador l m

section Seats

variable {p : Partida} {l : Lado} {j : Jugada}

theorem enUnAsiento_of_sentados (hj : p.Sentados j) :
    MultPlayer.EnUnAsiento (p.uid l) j := by
  obtain ⟨huno, hdos⟩ := hj
  have hne := p.uno_ne_dos
  unfold MultPlayer.EnUnAsiento
  rw [huno, hdos]
  cases l with
  | uno => exact iff_of_true rfl hne.symm
  | dos => exact iff_of_false hne (not_not_intro rfl)

/-- The first player owns the first part of a pair, and `IvjUno`. -/
theorem esUno_iff (hj : p.Sentados j) : j.jugadorUnoID = p.uid l ↔ l = .uno := by
  rw [hj.1]
  cases l with
  | uno => exact iff_of_true rfl rfl
  | dos => exact iff_of_false p.uno_ne_dos nofun

theorem ajenos_eq (hj : p.Sentados j) (x : ℤ × ℤ) :
    MultPlayer.ajenos (p.uid l) j x = lado l.otro x := by
  unfold MultPlayer.ajenos
  simp only [esUno_iff hj]
  cases l with
  | uno => rfl
  | dos => rfl

theorem imagenPropia_eq (hj : p.Sentados j) :
    MultPlayer.imagenPropia (p.uid l) j = imagenPropia l := by
  unfold MultPlayer.imagenPropia
  simp only [esUno_iff hj]
  cases l with
  | uno => rfl
  | dos => rfl

theorem refresca_iff {m : MultPlayer} (hm : m.uid = p.uid l)
    (hj : p.Sentados j) (imagen : Imagen) :
    MultPlayer.Refresca m imagen j ↔
      m.n = 1 ∨ m.n = 2 ∨ (m.n = 0 ∧ imagen = imagenPropia l) := by
  unfold MultPlayer.Refresca
  rw [hm, imagenPropia_eq hj]

theorem cuenta_otro {m : MultPlayer} {imagen : Imagen} (hm : m.uid = p.uid l)
    (hj : p.Sentados j) :
    lado l.otro (m.cuenta imagen j) = puntosAjenos l m imagen j := by
  have hasiento : MultPlayer.EnUnAsiento m.uid j := by
    rw [hm]
    exact enUnAsiento_of_sentados hj
  have hajenos : ∀ x, MultPlayer.ajenos m.uid j x = lado l.otro x := by
    rw [hm]
    exact ajenos_eq hj
  rw [← hajenos, MultPlayer.cuenta_ajenos hasiento]
  exact if_congr (refresca_iff hm hj imagen) (hajenos _) (hajenos _)

end Seats

/-- A screen writes while nothing of the other one is in flight; what it stores
for the other player is what the server has, and what a game-over call stores
for its own player is the counter. -/
structure Sola (p : Partida) (s : Estado) (a : Paso) : Prop where
  toca : ∀ x ∈ toca? a, s.outbox x.1.otro = [] ∧
    ∀ j ∈ (s.client x.1).jugada,
      puntosAjenos x.1 (s.client x.1) x.2 j = p.marcador x.1.otro s.server
  acaba : ∀ l ∈ acaba? a, s.outbox l.otro = [] ∧
    ∀ j ∈ (s.client l).jugada,
      puntos l.otro j = p.marcador l.otro s.server ∧
        puntos l j = contador l (s.client l)

instance (p : Partida) (s : Estado) (a : Paso) : Decidable (p.Sola s a) :=
  decidable_of_iff (_ ∧ _) ⟨fun h => ⟨h.1, h.2⟩, fun h => ⟨h.toca, h.acaba⟩⟩

/-- The net sum of what the click handlers of each player have added to or
taken from his counter, carried along a run. -/
def sumaToques (s : Estado) (a : Paso) (neto : Lado → ℤ) : Lado → ℤ :=
  match a with
  | .event l (.mult (.clic imagen _)) =>
      match (s.client l).jugada with
      | none => neto
      | some j =>
          Function.update neto l
            (neto l + incremento l (s.client l) imagen j)
  | _ => neto

/-- The matches stored whole by the writes in flight of player `l`. -/
def enteras (s : Estado) (l : Lado) : List Jugada :=
  (s.outbox l).filterMap entera

/-- What the scores come to along a run under the condition. -/
structure Cuadra (p : Partida) (s : Estado) (neto : Lado → ℤ) : Prop where
  asientos : (asientos p).Holds s
  empezada : p.Empezada s.server
  /-- The last own score a player has written is his counter. -/
  propia : ∀ l, (((enteras s l).getLast?.map (puntos l)).getD
    (p.marcador l s.server)) = contador l (s.client l)
  contador : ∀ l, contador l (s.client l) = neto l
  /-- Nothing in flight changes the score of the other player. -/
  ajena : ∀ l, ∀ j ∈ enteras s l, puntos l.otro j = p.marcador l.otro s.server
  sola : ∀ l, enteras s l ≠ [] → enteras s l.otro = []

theorem enteras_settle_self (s : Estado) (l : Lado)
    (r : MultPlayer × List Escritura) :
    enteras (programa.settle s l r) l = enteras s l ++ r.2.filterMap entera := by
  unfold enteras
  rw [Program.settle_outbox_self, List.filterMap_append]

theorem enteras_settle_ne (s : Estado) {l k : Lado} (hk : k ≠ l)
    (r : MultPlayer × List Escritura) :
    enteras (programa.settle s l r) k = enteras s k := by
  unfold enteras
  rw [Program.settle_outbox_ne r hk]

theorem enteras_receive_ne (s : Estado) {l k : Lado} (hk : k ≠ l)
    (w : Escritura) (ws : List Escritura) :
    enteras (programa.receive s l w ws) k = enteras s k := by
  unfold enteras
  rw [Program.receive_outbox_ne w ws hk]

/-- The match that arrives leaves the queue of its player. -/
theorem enteras_receive_self {s : Estado} {l : Lado} {w : Escritura}
    {ws : List Escritura} (hbox : s.outbox l = w :: ws) :
    enteras s l =
      (entera w).toList ++ enteras (programa.receive s l w ws) l := by
  unfold enteras
  rw [hbox, Program.receive_outbox_self, List.filterMap_cons]
  cases entera w <;> rfl

theorem marcador_aplicar {p : Partida} {l : Lado} {db : BaseDatos}
    {w : Escritura} {j : Jugada} (k : Lado) (hw : p.Permitida l w)
    (hj : db.jugadas p.jugadaId = some j) :
    p.marcador k (db.aplicar w).1 =
      ((entera w).map (puntos k)).getD (p.marcador k db) := by
  unfold marcador
  rw [marca_aplicar hw hj, escrito]
  cases entera w <;> rfl

/-- The last match stored is the same whether the first one, `o`, has arrived or
not. -/
theorem ultima_llegada (f : Jugada → ℤ) (v : ℤ) (o : Option Jugada)
    (ks : List Jugada) :
    (ks.getLast?.map f).getD ((o.map f).getD v) =
      ((o.toList ++ ks).getLast?.map f).getD v := by
  rw [List.getLast?_append]
  cases ks.getLast? with
  | some k => rfl
  | none => cases o <;> rfl

/-- A screen that stores no match and keeps its counter. -/
theorem Cuadra.quieta {p : Partida} {s : Estado} {neto : Lado → ℤ} {l : Lado}
    {m' : MultPlayer} {ws : List Escritura} (h : p.Cuadra s neto)
    (hws : ws.filterMap entera = [])
    (hcont : Partida.contador l m' = Partida.contador l (s.client l))
    (hasientos : (Partida.asientos p).Holds (programa.settle s l (m', ws))) :
    p.Cuadra (programa.settle s l (m', ws)) neto := by
  have henteras : ∀ k, enteras (programa.settle s l (m', ws)) k =
      enteras s k := by
    intro k
    by_cases hk : k = l
    · subst hk
      rw [enteras_settle_self, hws]
      exact List.append_nil _
    · exact enteras_settle_ne s hk _
  have hcontador : ∀ k, Partida.contador k
      ((programa.settle s l (m', ws)).client k) =
        Partida.contador k (s.client k) := by
    intro k
    by_cases hk : k = l
    · subst hk
      rw [Program.settle_client_self]
      exact hcont
    · rw [Program.settle_client_ne _ hk]
  refine ⟨hasientos, h.empezada, ?_, ?_, ?_, ?_⟩
  · intro k
    rw [henteras, hcontador]
    exact h.propia k
  · intro k
    rw [hcontador]
    exact h.contador k
  · intro k
    rw [henteras]
    exact h.ajena k
  · intro k
    rw [henteras, henteras]
    exact h.sola k

/-- A screen that stores the match `k` with its own counter and the score of
the other player as the server has it. -/
theorem Cuadra.set {p : Partida} {s : Estado} {neto neto' : Lado → ℤ}
    {l : Lado} {m' : MultPlayer} {ws : List Escritura}
    (h : p.Cuadra s neto) (k : Jugada) (hws : ws.filterMap entera = [k])
    (hotro : s.outbox l.otro = [])
    (hajena : puntos l.otro k = p.marcador l.otro s.server)
    (hpropia : puntos l k = Partida.contador l m')
    (hneto : neto' = Function.update neto l (Partida.contador l m'))
    (hasientos : (Partida.asientos p).Holds (programa.settle s l (m', ws))) :
    p.Cuadra (programa.settle s l (m', ws)) neto' := by
  have hself : enteras (programa.settle s l (m', ws)) l =
      enteras s l ++ [k] := by
    rw [enteras_settle_self, hws]
  have hother : enteras (programa.settle s l (m', ws)) l.otro = [] := by
    rw [enteras_settle_ne s l.otro_ne, enteras, hotro]
    rfl
  refine ⟨hasientos, h.empezada, ?_, ?_, ?_, ?_⟩
  · intro i
    rcases l.eq_or_eq_otro i with rfl | rfl
    · rw [hself, Program.settle_client_self, List.getLast?_append]
      exact hpropia
    · rw [hother, Program.settle_client_ne _ l.otro_ne]
      have hpropia' := h.propia l.otro
      rw [enteras, hotro] at hpropia'
      exact hpropia'
  · intro i
    rw [hneto]
    rcases l.eq_or_eq_otro i with rfl | rfl
    · rw [Program.settle_client_self, Function.update_self]
    · rw [Program.settle_client_ne _ l.otro_ne,
        Function.update_of_ne l.otro_ne]
      exact h.contador l.otro
  · intro i j hj
    rcases l.eq_or_eq_otro i with rfl | rfl
    · rw [hself] at hj
      rcases List.mem_append.mp hj with hold | hnew
      · exact h.ajena i j hold
      · rw [List.mem_singleton.mp hnew]
        exact hajena
    · rw [hother] at hj
      cases hj
  · intro i hne
    rcases l.eq_or_eq_otro i with rfl | rfl
    · exact hother
    · exact absurd hother hne

/-- A write that arrives stores the score of its own player and leaves the
other one as it is. -/
theorem Cuadra.arrive {p : Partida} {s : Estado} {neto : Lado → ℤ} {l : Lado}
    {w : Escritura} {ws : List Escritura} (h : p.Cuadra s neto)
    (hbox : s.outbox l = w :: ws) :
    p.Cuadra (programa.receive s l w ws) neto ∧
      p.marcador l.otro (programa.receive s l w ws).server =
        p.marcador l.otro s.server := by
  obtain ⟨j, hj, -⟩ := h.empezada
  have hw : w ∈ s.outbox l := mem_of_eq_cons hbox
  have hperm := h.asientos.outbox l w hw
  have hstep : programa.step s (.arrive l) =
      some (programa.receive s l w ws) := by
    simp only [Program.step, hbox]
  have hasientos := asientos_step h.asientos hstep
  have hempezada := (aplicar_asientos hperm).2 h.empezada
  have hself := enteras_receive_self hbox
  have hmarca : ∀ k, p.marcador k (programa.receive s l w ws).server = _ :=
    fun k => marcador_aplicar k hperm hj
  have hotro : p.marcador l.otro (programa.receive s l w ws).server =
      p.marcador l.otro s.server := by
    rw [hmarca]
    cases hent : entera w with
    | none => rfl
    | some k =>
        refine h.ajena l k ?_
        rw [hself, hent]
        exact List.mem_cons_self
  refine ⟨⟨hasientos, hempezada, ?_, h.contador, ?_, ?_⟩, hotro⟩
  · intro i
    rcases l.eq_or_eq_otro i with rfl | rfl
    · rw [hmarca, ultima_llegada, ← hself]
      exact h.propia i
    · rw [hotro, enteras_receive_ne s l.otro_ne]
      exact h.propia l.otro
  · intro i k hk
    rcases l.eq_or_eq_otro i with rfl | rfl
    · rw [hotro]
      refine h.ajena i k ?_
      rw [hself]
      exact List.mem_append_right _ hk
    · rw [enteras_receive_ne s l.otro_ne] at hk
      have hajena := h.ajena l.otro k hk
      have hnone := h.sola l.otro (List.ne_nil_of_mem hk)
      rw [Lado.otro_otro] at hnone hajena ⊢
      rw [hself] at hnone
      rw [hmarca]
      cases hent : entera w with
      | none => exact hajena
      | some k =>
          rw [hent] at hnone
          cases hnone
  · intro i hne
    rcases l.eq_or_eq_otro i with rfl | rfl
    · rw [enteras_receive_ne s i.otro_ne]
      refine h.sola i fun hnil => hne ?_
      rw [hself] at hnil
      exact (List.append_eq_nil_iff.mp hnil).2
    · rw [enteras_receive_ne s l.otro_ne] at hne
      have hnone := h.sola l.otro hne
      rw [Lado.otro_otro] at hnone ⊢
      rw [hself] at hnone
      exact (List.append_eq_nil_iff.mp hnone).2

/-- A tap under the condition. -/
theorem Cuadra.toque {p : Partida} {s : Estado} {neto : Lado → ℤ} {l : Lado}
    {imagen : Imagen} {aleatorio : Fin 3} {j : Jugada} {m' : MultPlayer}
    {ws : List Escritura} (h : p.Cuadra s neto)
    (hok : p.Sola s (.event l (.mult (.clic imagen aleatorio))))
    (ht : MultPlayer.Toque (s.client l) imagen aleatorio j m' ws)
    (hasientos : (Partida.asientos p).Holds (programa.settle s l (m', ws))) :
    p.Cuadra (programa.settle s l (m', ws))
      (sumaToques s (.event l (.mult (.clic imagen aleatorio))) neto) := by
  obtain ⟨hotro, hcopia⟩ := hok.toca (l, imagen) rfl
  obtain ⟨hjug, -⟩ := h.asientos.clients l
  have hcont : Partida.contador l m' =
      lado l ((s.client l).cuenta imagen j) := by
    unfold Partida.contador
    rw [ht.cont1, ht.cont2]
  refine h.set (MultPlayer.tocada j ((s.client l).cuenta imagen j) aleatorio)
    ?_ hotro ?_ ?_ ?_ hasientos
  · rw [ht.writes]
    rfl
  · rw [← hcopia j ht.antes, ← cuenta_otro hjug.uid (hjug.jugada j ht.antes)]
    rfl
  · rw [hcont]
    rfl
  · have hsum : neto l + incremento l (s.client l) imagen j =
        Partida.contador l m' := by
      rw [hcont, ← h.contador l]
      unfold incremento
      omega
    simp only [sumaToques, ht.antes, hsum]

/-- A call of `funcionGameover` under the condition. -/
theorem Cuadra.termina {p : Partida} {s : Estado} {neto : Lado → ℤ} {l : Lado}
    {e : MultPlayer.Suceso} {j : Jugada} {m' : MultPlayer}
    {ws : List Escritura} (h : p.Cuadra s neto) (he : e.esGameover = true)
    (hok : p.Sola s (.event l (.mult e)))
    (hj : ((s.client l).alLlamar e).jugada = some j)
    (ht : MultPlayer.Termina ((s.client l).alLlamar e) j m' ws)
    (hasientos : (Partida.asientos p).Holds (programa.settle s l (m', ws))) :
    p.Cuadra (programa.settle s l (m', ws)) neto := by
  obtain ⟨hotro, hcopia⟩ := hok.acaba l (acaba?_of_esGameover he)
  have hcont : Partida.contador l m' = Partida.contador l (s.client l) := by
    unfold Partida.contador
    rw [ht.base.afin.cont1, ht.base.afin.cont2, MultPlayer.alLlamar_cont1,
      MultPlayer.alLlamar_cont2]
  obtain ⟨k, hk, hsame⟩ := (s.client l).alLlamar_jugada e hj
  have hpuntos : ∀ i, puntos i (MultPlayer.coronada j) = puntos i k := by
    intro i
    rcases hsame with rfl | ⟨-, rfl⟩
    · rfl
    · rfl
  obtain ⟨hajena, hpropia⟩ := hcopia k hk
  refine h.set (MultPlayer.coronada j) ?_ hotro ?_ ?_ ?_ hasientos
  · rcases ht.credito with ⟨-, hws, -⟩ | ⟨u, -, hws, -⟩
    · rw [hws]
      rfl
    · rw [hws]
      rfl
  · rw [hpuntos]
    exact hajena
  · rw [hpuntos, hcont]
    exact hpropia
  · rw [hcont, h.contador l, Function.update_eq_self]

theorem sumaToques_of_ne {s : Estado} {a : Paso} {neto : Lado → ℤ}
    (h : ∀ l imagen aleatorio, a ≠ .event l (.mult (.clic imagen aleatorio))) :
    sumaToques s a neto = neto := by
  unfold sumaToques
  split
  next l imagen aleatorio => exact absurd rfl (h l imagen aleatorio)
  · rfl

/-- One step under the condition. -/
theorem Cuadra.step {p : Partida} {s s' : Estado} {a : Paso}
    {neto : Lado → ℤ} (h : p.Cuadra s neto) (hok : p.Sola s a)
    (hstep : programa.step s a = some s') :
    p.Cuadra s' (sumaToques s a neto) := by
  have hasientos := asientos_step h.asientos hstep
  cases a with
  | event l e =>
      obtain ⟨⟨m', ws⟩, hreact, rfl⟩ := Program.step_event hstep
      rcases react_efecto hreact with ⟨imagen, aleatorio, j, rfl, ht⟩ |
        ⟨e', j, rfl, hgame, hj, ht⟩ | ⟨e', rfl, hq, hquieta⟩ |
        ⟨rfl, j, w, hj, huno, rfl, hw⟩
      · exact h.toque hok ht hasientos
      · have hsuma : sumaToques s (.event l (.mult e')) neto = neto := by
          refine sumaToques_of_ne fun l' imagen aleatorio heq => ?_
          cases heq
          cases hgame
        rw [hsuma]
        exact h.termina hgame hok hj ht hasientos
      · have hsuma : sumaToques s (.event l (.mult e')) neto = neto := by
          rcases hq with hcall | hnone
          · refine sumaToques_of_ne fun l' imagen aleatorio heq => ?_
            cases heq
            cases hcall
          · cases e' <;> simp [sumaToques, hnone]
        have hws := hquieta.writes
        subst hws
        rw [hsuma]
        refine h.quieta rfl ?_ hasientos
        unfold Partida.contador
        rw [hquieta.cont1, hquieta.cont2]
      · obtain ⟨hjug, -⟩ := h.asientos.clients l
        have hsuma : sumaToques s (.event l e) neto = neto := by
          refine sumaToques_of_ne fun l' imagen aleatorio heq => ?_
          cases heq
          rcases hw with ⟨hw, -⟩ | ⟨hw, -⟩ | ⟨hw, -⟩ <;> cases hw
        rw [hsuma]
        refine h.quieta ?_ rfl hasientos
        rcases hw with ⟨-, rfl⟩ | ⟨-, hlibre, -⟩ | ⟨-, rfl⟩
        · rfl
        · -- the second seat is taken already
          obtain ⟨k, hk, -, hdos⟩ := h.empezada
          rw [hjug.jugadaId, hk] at hj
          cases hj
          exact absurd (hdos.symm.trans hlibre) p.dos_ne_vacio
        · rfl
  | arrive l =>
      obtain ⟨w, ws, hbox, rfl⟩ := Program.step_arrive hstep
      exact (h.arrive hbox).1
  | confirm l =>
      obtain ⟨w, b, rest, hacks, rfl⟩ := Program.step_confirm hstep
      have hsin : p.Cuadra { s with acks := Function.update s.acks l rest }
          neto :=
        ⟨h.asientos.confirmed (subset_of_eq_cons hacks) rfl, h.empezada,
          h.propia, h.contador, h.ajena, h.sola⟩
      exact hsin.quieta rfl rfl hasientos
  | deliver l =>
      obtain ⟨d, rest, hbox, rfl⟩ := Program.step_deliver hstep
      have hsin : p.Cuadra { s with inbox := Function.update s.inbox l rest }
          neto :=
        ⟨h.asientos.delivered (subset_of_eq_cons hbox) rfl, h.empezada,
          h.propia, h.contador, h.ajena, h.sola⟩
      rcases MultPlayer.snapshot_cases (s.outbox l) d (s.client l) with hsame |
        ⟨-, -, j, m', -, hsnap, hrec⟩
      · have hsnap' : programa.snapshot (s.outbox l) d (s.client l) =
            (s.client l, []) := hsame
        rw [hsnap'] at hasientos ⊢
        exact hsin.quieta rfl rfl hasientos
      · have hsnap' : programa.snapshot (s.outbox l) d (s.client l) =
            (m', []) := hsnap
        rw [hsnap'] at hasientos ⊢
        refine hsin.quieta rfl ?_ hasientos
        unfold Partida.contador
        rw [hrec.afin.cont1, hrec.afin.cont2]
  | skip l =>
      obtain ⟨d, rest, hbox, rfl⟩ := Program.step_skip hstep
      exact ⟨hasientos, h.empezada, h.propia, h.contador, h.ajena, h.sola⟩

/-! ## The scores of a match -/

/-- A match that both players have just joined. -/
def Nueva (p : Partida) (db : BaseDatos) : Prop :=
  ∃ j, db.jugadas p.jugadaId = some j ∧ p.Sentados j ∧
    j.puntosjugadorUnoID = 0 ∧ j.puntosjugadorDosID = 0

/-- When nothing is on its way any more, each score is the net sum of what its
player's own taps have counted. -/
def MarcadorExacto (p : Partida) (s : Estado) (neto : Lado → ℤ) : Prop :=
  (∀ l, s.outbox l = []) → (∀ l, s.inbox l = []) →
    ∀ l, p.marcador l s.server = neto l

/-- No write that arrives changes the score of the other player. -/
def RespetaAlOtro (p : Partida) (s : Estado) (acts : List Paso) : Prop :=
  Runs.Along programa.step
    (fun s a => ∀ l s', a = .arrive l → programa.step s a = some s' →
      p.marcador l.otro s'.server = p.marcador l.otro s.server) s acts

theorem cuadra_inicial {p : Partida} {db : BaseDatos} (h : p.Nueva db) :
    p.Cuadra (p.inicial db) fun _ => 0 := by
  obtain ⟨j, hj, hsent, huno, hdos⟩ := h
  refine ⟨asientos_inicial ⟨j, hj, hsent.enMesa⟩, ⟨j, hj, hsent⟩, ?_, ?_, ?_,
    ?_⟩
  · intro l
    have hmarca : p.marca (p.inicial db).server = resultado j := by
      simp only [inicial, marca, hj]
    show p.marcador l (p.inicial db).server = contador l _
    rw [marcador, hmarca]
    cases l with
    | uno => exact huno
    | dos => exact hdos
  · intro l
    cases l <;> rfl
  · intro l k hk
    cases hk
  · exact fun l hne => absurd rfl hne

theorem cuadra_run {p : Partida} {s : Estado} {neto : Lado → ℤ}
    {acts : List Paso} (h : p.Cuadra s neto)
    (hok : Runs.Along programa.step p.Sola s acts) :
    (∀ t neto', Runs.run (Runs.ghost programa.step sumaToques) (s, neto) acts =
      some (t, neto') → p.Cuadra t neto') ∧ p.RespetaAlOtro s acts := by
  induction acts generalizing s neto with
  | nil =>
      refine ⟨fun t neto' ht => ?_, trivial⟩
      cases ht
      exact h
  | cons a acts ih =>
      refine ⟨?_, ?_, ?_⟩
      · intro t neto' ht
        obtain ⟨⟨s', neto''⟩, hg, hrest⟩ := Runs.run_cons_eq_some ht
        obtain ⟨hstep, hneto⟩ := Runs.ghost_eq_some hg
        have hneto' : neto'' = sumaToques s a neto := hneto
        subst hneto'
        exact (ih (h.step hok.1 hstep) (hok.2 s' hstep)).1 t neto' hrest
      · intro l s' ha hstep
        subst ha
        obtain ⟨w, ws, hbox, rfl⟩ := Program.step_arrive hstep
        exact (h.arrive hbox).2
      · intro s' hstep
        exact (ih (h.step hok.1 hstep) (hok.2 s' hstep)).2

/-- Under the condition no score is lost: when everything has arrived the
scores are the net sums, and on the way no write touches the other score. -/
theorem marcador_exacto {p : Partida} {db : BaseDatos} {acts : List Paso}
    {s : Estado} {neto : Lado → ℤ} (hdb : p.Nueva db)
    (hrun : Runs.run (Runs.ghost programa.step sumaToques)
      (p.inicial db, fun _ => 0) acts = some (s, neto))
    (hok : Runs.Along programa.step p.Sola (p.inicial db) acts) :
    p.MarcadorExacto s neto ∧ p.RespetaAlOtro (p.inicial db) acts := by
  obtain ⟨hcuadra, hrespeta⟩ := cuadra_run (cuadra_inicial hdb) hok
  refine ⟨?_, hrespeta⟩
  intro hout _ l
  have h := hcuadra s neto hrun
  have hpropia := h.propia l
  rw [enteras, hout l] at hpropia
  exact hpropia.trans (h.contador l)

/-- Both players score in turn. -/
def puntosPorTurno : List Paso :=
  entra .uno ++ entra .dos ++
    [.event .uno (.mult (.clic .IvjUno (sale 1))), .arrive .uno, .deliver .uno,
      .deliver .dos, .event .dos (.mult (.clic .IvjDos (sale 2))), .arrive .dos,
      .deliver .uno, .deliver .dos]

theorem marcador_exacto_deAyB :
    ∃ s neto, Runs.run (Runs.ghost programa.step sumaToques)
        (deAyB.inicial baseAyB, fun _ => 0) puntosPorTurno = some (s, neto) ∧
      deAyB.MarcadorExacto s neto ∧
      deAyB.RespetaAlOtro (deAyB.inicial baseAyB) puntosPorTurno := by
  obtain ⟨⟨s, neto⟩, hrun⟩ := Option.isSome_iff_exists.mp
    (show (Runs.run (Runs.ghost programa.step sumaToques)
      (deAyB.inicial baseAyB, fun _ => 0) puntosPorTurno).isSome = true by
        decide)
  exact ⟨s, neto, hrun, marcador_exacto ⟨_, rfl, ⟨rfl, rfl⟩, rfl, rfl⟩ hrun
    (by decide)⟩

/-- Player `a` scores and everybody is told; then `b` taps the image of `a`
while the order is still the opening one. -/
def toqueConContadorViejo : List Paso :=
  entra .uno ++ entra .dos ++
    [.event .uno (.mult (.clic .IvjUno (sale 0))), .arrive .uno, .deliver .uno,
      .deliver .dos, .event .dos (.mult (.clic .IvjUno (sale 0))), .arrive .dos,
      .deliver .uno, .deliver .dos]

/-- The tap of `b`, which counts nothing, takes the point of `a` away. -/
theorem marcador_perdido :
    ∃ s neto, Runs.run (Runs.ghost programa.step sumaToques)
        (deAyB.inicial baseAyB, fun _ => 0) toqueConContadorViejo =
          some (s, neto) ∧ ¬deAyB.MarcadorExacto s neto := by
  have hvalores : (Runs.run (Runs.ghost programa.step sumaToques)
      (deAyB.inicial baseAyB, fun _ => 0) toqueConContadorViejo).map
        (fun t => (t.1.outbox .uno, t.1.outbox .dos, (t.1.inbox .uno).length,
          (t.1.inbox .dos).length, deAyB.marcador .uno t.1.server, t.2 .uno)) =
      some ([], [], 0, 0, 0, 1) := by decide
  obtain ⟨⟨s, neto⟩, hrun, h⟩ := Option.map_eq_some_iff.mp hvalores
  simp only [Prod.mk.injEq, List.length_eq_zero_iff] at h
  obtain ⟨houno, hodos, hiuno, hidos, hmarca, hneto⟩ := h
  refine ⟨s, neto, hrun, fun hexacto => ?_⟩
  have heq := hexacto (fun l => ?_) (fun l => ?_) .uno
  · rw [hmarca, hneto] at heq
    cases heq
  · cases l with
    | uno => exact houno
    | dos => exact hodos
  · cases l with
    | uno => exact hiuno
    | dos => exact hidos

end Tocate.Partida
