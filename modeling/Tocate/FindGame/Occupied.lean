import Tocate.FindGame.Deletions
import Tocate.MultPlayer.Steps

/-!
# A second seat that has been taken

Nobody gives a second seat back: a join, a claim and a refusal put a user into
it, and a match screen stores the match as it has seen it.  A match screen that
sees a game without a second player at first is taken down by the empty id, and
one that has seen both players is shown nothing older.
-/

namespace Tocate

/-- The game has been created, and waits for nobody. -/
def BaseDatos.SinEspera (db : BaseDatos) (g : String) : Prop :=
  db.creador g ≠ none ∧ ∀ j, db.jugadas g = some j → j.jugadorDosID ≠ ""

/-- The write, unless it creates a game, puts a user into the second seat. -/
def Escritura.Ocupa (w : Escritura) : Prop :=
  ∀ q, w.ocupada = some q → w.crea = none → q.2 ≠ ""

/-- A game that waits after a write was waiting before, or is new. -/
theorem BaseDatos.espera_aplicar {db : BaseDatos} {w : Escritura} {g : String}
    {j : Jugada} (hw : w.Ocupa) (hcreador : db.creador g ≠ none)
    (hj : (db.aplicar w).1.jugadas g = some j) (hdos : j.jugadorDosID = "") :
    db.jugadas g = some j := by
  rcases aplicar_dos hj with hold | ⟨hocupada, hexito⟩
  · exact hold
  · cases hcrea : w.crea with
    | none => exact absurd hdos (hw _ hocupada hcrea)
    | some id =>
        obtain ⟨k, rfl⟩ := Escritura.crea_eq hcrea
        obtain ⟨rfl, -⟩ := Prod.mk.inj (Option.some.inj hocupada)
        obtain ⟨c, hc⟩ := Option.ne_none_iff_exists'.mp hcreador
        simp [aplicar, hc] at hexito

theorem BaseDatos.SinEspera.aplicar {db : BaseDatos} {w : Escritura}
    {g : String} (h : db.SinEspera g) (hw : w.Ocupa) :
    (db.aplicar w).1.SinEspera g := by
  refine ⟨?_, fun j hj hdos => ?_⟩
  · obtain ⟨c, hc⟩ := Option.ne_none_iff_exists'.mp h.1
    rw [aplicar_creador_some hc w]
    exact Option.some_ne_none c
  · exact h.2 j (espera_aplicar hw h.1 hj hdos) hdos

/-- A second player seen in the earlier state is still there in the later one. -/
def BaseDatos.Despues (db db' : BaseDatos) : Prop :=
  ∀ g j, db.jugadas g = some j → j.jugadorDosID ≠ "" → db'.SinEspera g

namespace MultPlayer

/-- The first match that the screen takes has both players. -/
theorem dos_of_snapshot {pendientes : List Escritura} {db : BaseDatos}
    {m m' : MultPlayer} {j : Jugada} (hs : Sana m) (hcaida : m.caida = false)
    (hpend : pendientes.any (Escritura.toca m.jugadaId) = false)
    (hj : db.jugadas m.jugadaId = some j)
    (hsnap : snapshot pendientes db m = (m', [])) (hviva : m'.caida = false)
    (hprimera : m.jugada = none) : j.jugadorDosID ≠ "" := by
  intro hdos
  simp only [snapshot, hcaida, hpend, hj, Bool.false_eq_true, if_false] at hsnap
  rcases onEvent_eq m j with ⟨-, -, hfalla, -⟩ | ⟨hno, -⟩
  · have hcae := caida_cierra hfalla
    rw [hsnap, hviva] at hcae
    cases hcae
  · exact hno ⟨Or.inl (hs.virgen hprimera).1, Or.inr hdos⟩

end MultPlayer

namespace Sala

open Cloud

variable {ι : Type*} [DecidableEq ι] {s s' : Estado ι} {a : Paso ι}

/-- A step moves the match screen of each device as it moves alone, or leaves
it. -/
theorem step_avanza (hq : programa.Quiet s) (hstep : programa.step s a = some s')
    (k : ι) :
    (s'.client k).juega = (s.client k).juega ∨
      ∃ b, (s.client k).juega.avanza b = some (s'.client k).juega := by
  rcases Program.step_at hstep k with ⟨e, ⟨a', ws⟩, rfl, hr, rfl⟩ |
    ⟨w, ws, rfl, -, rfl⟩ | ⟨w, ok, rest, rfl, -, rfl⟩ |
    ⟨d, rest, rfl, hbox, rfl⟩ | hidle
  · have hreact : react s.server (programa.view s k) (s.client k) e =
      some (a', ws) := hr
    rw [Program.settle_client_self]
    cases e with
    | busca e => exact Or.inl (react_busca hreact).2.2
    | juega e =>
        right
        refine ⟨.evento (programa.view s k) e, ?_⟩
        rw [MultPlayer.avanza, (react_juega hreact).1]
        rfl
    | cancelarJugada g =>
        obtain ⟨rfl, -⟩ := react_cancelarJugada hreact
        exact Or.inl rfl
  · exact Or.inl rfl
  · left
    rw [Program.settle_client_self]
    rfl
  · rw [Program.settle_client_self]
    exact Or.inr ⟨_, MultPlayer.avanza_snapshot (hq.listens hbox) _ d⟩
  · exact Or.inl (congrArg Aparato.juega hidle.client)

/-- What a device may turn into and write, as far as second seats go. -/
structure Sienta (a : Aparato) (r : Aparato × List Escritura) : Prop where
  writes : ∀ w ∈ r.2, w.Ocupa
  juega : ∀ j, r.1.juega.jugada = some j → r.1.juega.caida = false →
    a.juega.caida = false ∧ r.1.juega.jugadaId = a.juega.jugadaId ∧
      ∃ k, a.juega.jugada = some k ∧ j.jugadorDosID = k.jugadorDosID

theorem sienta_react {db vista : BaseDatos} {a : Aparato} {e : Suceso}
    {r : Aparato × List Escritura} (huid : a.busca.uid ≠ "")
    (hcopia : ∀ j, a.juega.jugada = some j → j.jugadorDosID ≠ "")
    (h : react db vista a e = some r) : Sienta a r := by
  have hviva := (react_viva h).2
  obtain ⟨a', ws⟩ := r
  cases e with
  | busca e =>
      obtain ⟨-, hbusca, hjuega⟩ := react_busca h
      obtain ⟨-, t, ht, hcierra⟩ := FindGame.react_eq_some hbusca
      obtain ⟨-, rfl⟩ := Prod.mk.inj hcierra
      refine ⟨fun w hw q hq hcrea => ?_, fun j hj _ => ?_⟩
      · obtain ⟨id, inv⟩ | ⟨g, -⟩ | ⟨docs, p, nuevas, -, -, -⟩ | ⟨g, -⟩ :=
          (FindGame.atiende_writes ht).1 w hw
        · cases hcrea
        · cases hq
          exact huid
        · cases hq
          exact huid
        · cases hq
      · rw [hjuega] at hj ⊢
        exact ⟨hviva, rfl, j, hj, rfl⟩
  | juega e =>
      obtain ⟨hmult, -⟩ := react_juega h
      have hset : ∀ (m : MultPlayer) (j : Jugada), j.jugadorDosID ≠ "" →
          MultPlayer.Guarda m j ws → ∀ w ∈ ws, w.Ocupa := by
        intro m j hdos hguarda
        refine hguarda.forall_mem ?_ fun l q hq => by cases hq
        intro q hq _
        cases hq
        exact hdos
      rcases MultPlayer.react_efecto hmult with
        ⟨imagen, aleatorio, j, -, ht⟩ | ⟨-, j, hj, ht⟩ | ⟨-, hq⟩
      · refine ⟨hset _ (MultPlayer.tocada j (a.juega.cuenta imagen j) aleatorio)
          (hcopia j ht.antes) ht.guarda, fun k hk _ => ?_⟩
        rw [ht.jugada] at hk
        rw [ht.jugadaId]
        exact ⟨hviva, rfl, j, ht.antes, by rw [← Option.some.inj hk]; rfl⟩
      · obtain ⟨k, hk, hcoincide⟩ := a.juega.alLlamar_jugada e hj
        have hdos : j.jugadorDosID = k.jugadorDosID := by
          rcases hcoincide with rfl | ⟨-, rfl⟩
          · rfl
          · rfl
        have hno : (MultPlayer.coronada j).jugadorDosID ≠ "" :=
          hdos ▸ hcopia k hk
        refine ⟨hset _ _ hno ht.guarda, fun j' hj' _ => ?_⟩
        rw [ht.jugada] at hj'
        rw [ht.base.afin.jugadaId, MultPlayer.alLlamar_jugadaId]
        exact ⟨hviva, rfl, k, hk, by rw [← Option.some.inj hj']; exact hdos⟩
      · rw [hq.writes]
        refine ⟨List.forall_mem_nil _, fun j hj _ => ?_⟩
        rw [hq.jugada] at hj
        exact ⟨hviva, hq.jugadaId, j, hj, rfl⟩
  | cancelarJugada g =>
      obtain ⟨rfl, rfl, -⟩ := react_cancelarJugada h
      refine ⟨fun w hw q hq _ => ?_, fun j hj _ => ⟨hviva, rfl, j, hj, rfl⟩⟩
      cases List.mem_singleton.mp hw
      cases hq
      exact huid

/-- Only creations leave a second seat empty, and a match screen that shows a
match has seen both players. -/
structure Ocupadas (s : Estado ι) : Prop where
  outbox : ∀ i, ∀ w ∈ s.outbox i, w.Ocupa
  orden : Program.Ordered BaseDatos.Despues s
  quieta : programa.Quiet s
  sana : ∀ i, (s.client i).juega.caida = false →
    MultPlayer.Sana (s.client i).juega
  juega : ∀ i j, (s.client i).juega.caida = false →
    (s.client i).juega.jugada = some j →
      j.jugadorDosID ≠ "" ∧ s.server.SinEspera (s.client i).juega.jugadaId ∧
        ∀ d ∈ s.inbox i, d.SinEspera (s.client i).juega.jugadaId

/-- A match screen goes on with its match, or takes the one that it is
shown. -/
theorem Ocupadas.copia (h : Ocupadas s) (huid : ∀ k, (s.client k).busca.uid ≠ "")
    (hstep : programa.step s a = some s') {k : ι} {j : Jugada}
    (hviva : (s'.client k).juega.caida = false)
    (hj : (s'.client k).juega.jugada = some j) :
    (s.client k).juega.caida = false ∧
      (s'.client k).juega.jugadaId = (s.client k).juega.jugadaId ∧
      ((∃ j₀, (s.client k).juega.jugada = some j₀ ∧
          j.jugadorDosID = j₀.jugadorDosID) ∨
        ∃ d rest, a = .deliver k ∧ s.inbox k = d :: rest ∧
          d.jugadas (s.client k).juega.jugadaId = some j ∧
          j.jugadorDosID ≠ "") := by
  have hsame : (s'.client k).juega = (s.client k).juega →
      (s.client k).juega.caida = false ∧
        (s'.client k).juega.jugadaId = (s.client k).juega.jugadaId ∧
        ((∃ j₀, (s.client k).juega.jugada = some j₀ ∧
            j.jugadorDosID = j₀.jugadorDosID) ∨
          ∃ d rest, a = .deliver k ∧ s.inbox k = d :: rest ∧
            d.jugadas (s.client k).juega.jugadaId = some j ∧
            j.jugadorDosID ≠ "") := by
    intro heq
    rw [heq] at hviva hj ⊢
    exact ⟨hviva, rfl, Or.inl ⟨j, hj, rfl⟩⟩
  rcases Program.step_at hstep k with ⟨e, r, rfl, hr, rfl⟩ |
    ⟨w, ws, rfl, -, rfl⟩ | ⟨w, ok, rest, rfl, -, rfl⟩ |
    ⟨d, rest, rfl, hbox, rfl⟩ | hidle
  · rw [Program.settle_client_self] at hviva hj ⊢
    have hreact : react s.server (programa.view s k) (s.client k) e =
      some r := hr
    have hcopia := fun j => fun hj =>
      (h.juega k j (react_viva hreact).2 hj).1
    obtain ⟨hantes, hid, hcopia'⟩ :=
      (sienta_react (huid k) hcopia hreact).juega j hj hviva
    exact ⟨hantes, hid, Or.inl hcopia'⟩
  · exact hsame rfl
  · refine hsame ?_
    rw [Program.settle_client_self]
    rfl
  · rw [Program.settle_client_self] at hviva hj ⊢
    simp only [programa] at hviva hj ⊢
    rcases MultPlayer.snapshot_cases (s.outbox k) d (s.client k).juega with
      hpasa | ⟨hantes, hpend, j', m', hj', hsnap, hrec⟩
    · simp only [hpasa] at hviva hj ⊢
      exact ⟨hviva, trivial, Or.inl ⟨j, hj, rfl⟩⟩
    · rw [hsnap] at hviva hj ⊢
      rw [hrec.jugada] at hj
      obtain rfl := Option.some.inj hj
      refine ⟨hantes, hrec.afin.jugadaId,
        Or.inr ⟨d, rest, trivial, hbox, hj', ?_⟩⟩
      cases hcopia : (s.client k).juega.jugada with
      | none =>
          exact MultPlayer.dos_of_snapshot (h.sana k hantes) hantes hpend
            hj' hsnap hviva hcopia
      | some j₀ =>
          obtain ⟨-, -, hinbox⟩ := h.juega k j₀ hantes hcopia
          exact (hinbox d (mem_of_eq_cons hbox)).2 _ hj'
  · exact hsame (congrArg Aparato.juega hidle.client)

omit [DecidableEq ι] in
/-- A game on the server has been created. -/
theorem Creadas.despues (h : Creadas s) : s.server.Despues s.server := by
  intro g j hj hdos
  refine ⟨h.server g j hj, fun j' hj' => ?_⟩
  rw [← Option.some.inj (hj.symm.trans hj')]
  exact hdos

/-- A game that waits for nobody never waits again. -/
theorem Ocupadas.server (h : Ocupadas s) (hstep : programa.step s a = some s')
    {g : String} (hg : s.server.SinEspera g) : s'.server.SinEspera g := by
  rcases Program.step_flight hstep with ⟨i, w, ws, rfl, hbox, rfl⟩ |
    ⟨hserver, -⟩
  · exact hg.aplicar (h.outbox i w (mem_of_eq_cons hbox))
  · rw [hserver]
    exact hg

theorem Ocupadas.step (h : Ocupadas s) (hcreadas : Creadas s)
    (huid : ∀ k, (s.client k).busca.uid ≠ "")
    (hstep : programa.step s a = some s') : Ocupadas s' where
  outbox := by
    intro k w hw
    rcases Program.step_flight hstep with ⟨i, v, ws, rfl, hbox, rfl⟩ |
      ⟨-, -, i, hout, -⟩
    · exact h.outbox k w (Program.mem_receive_outbox hbox hw)
    · rw [hout k] at hw
      split at hw
      · rcases List.mem_append.mp hw with hold | hnew
        · exact h.outbox k w hold
        · cases a with
          | event n e =>
              obtain ⟨r, hr, hmem⟩ := Program.of_mem_issues hnew
              have hreact : react s.server (programa.view s n) (s.client n) e =
                some r := hr
              exact (sienta_react (huid n) (fun j hj =>
                (h.juega n j (react_viva hreact).2 hj).1) hreact).writes w hmem
          | arrive n => cases hnew
          | confirm n =>
              rw [issues_confirm] at hnew
              cases hnew
          | deliver n =>
              rw [issues_deliver] at hnew
              cases hnew
          | skip n => cases hnew
      · exact h.outbox k w hw
  orden := by
    refine h.orden.step hcreadas.despues (hcreadas.step hstep).despues ?_ hstep
    intro d hd g j hj hdos
    exact h.server hstep (hd g j hj hdos)
  quieta := Program.step_quiet h.quieta hstep
  sana := by
    intro k hviva
    rcases step_avanza h.quieta hstep k with hsame | ⟨b, hb⟩
    · rw [hsame] at hviva ⊢
      exact h.sana k hviva
    · exact (h.sana k (MultPlayer.caida_of_avanza hb)).paso hb hviva
  juega := by
    intro k j hviva hj
    obtain ⟨hantes, hid, ⟨j₀, hj₀, hdos⟩ | ⟨d, rest, rfl, hbox, hd, hdos⟩⟩ :=
      h.copia huid hstep hviva hj
    · obtain ⟨hno, hserver, hinbox⟩ := h.juega k j₀ hantes hj₀
      rw [hid, hdos]
      refine ⟨hno, h.server hstep hserver, fun d hd => ?_⟩
      rcases Program.step_flight hstep with ⟨i, w, ws, rfl, hbox, rfl⟩ |
        ⟨-, -, i, -, hin⟩
      · rcases Program.mem_receive_inbox hd with hold | ⟨-, rfl⟩
        · exact hinbox d hold
        · exact h.server hstep hserver
      · rcases hin k d hd with hold | rfl
        · exact hinbox d hold
        · exact hserver
    · -- what is shown after `d` comes after it
      have horden := h.orden k
      rw [hbox] at horden
      have hluego := (List.pairwise_cons.mp horden).1
      have hserver : s.server.SinEspera (s.client k).juega.jugadaId :=
        hluego s.server
          (List.mem_append_right rest (List.mem_singleton_self _)) _ j hd hdos
      rw [hid]
      refine ⟨hdos, h.server hstep hserver, fun d' hd' => ?_⟩
      obtain ⟨d₁, rest₁, hbox₁, rfl⟩ := Program.step_deliver hstep
      obtain ⟨rfl, rfl⟩ := List.cons_eq_cons.mp (hbox.symm.trans hbox₁)
      rcases Program.mem_settle_inbox hd' with hold | ⟨-, -, rfl⟩
      · simp only [Function.update_self] at hold
        exact hluego d' (List.mem_append_left _ hold) _ j hd hdos
      · exact hserver

omit [DecidableEq ι] in
theorem ocupadas_inicial (uid juego : ι → String)
    (users : String → Option User) : Ocupadas (inicial uid juego users) where
  outbox := fun _ => List.forall_mem_nil _
  orden := fun _ => List.pairwise_singleton _ _
  quieta := fun _ _ => rfl
  sana := fun k _ => MultPlayer.sana_creada (uid k) (juego k)
  juega := fun _ _ _ hj => absurd hj nofun

end Sala

end Tocate
