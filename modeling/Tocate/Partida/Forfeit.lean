import Tocate.MultPlayer.Steps
import Tocate.Partida.Abandonment
import Tocate.Partida.Result

/-!
# Who abandons

The winner is worked out from the scores alone, with ties going to the second
player.  Whoever goes back or refuses the invitation loses exactly where every
match that is ended, and every abandoned match that the other player is shown,
has scores in favour of the other player.
-/

namespace Tocate.Partida

open Cloud

/-- Some write of the list stores `uid` as winner. -/
def Gana (ws : List Escritura) (uid : String) : Prop :=
  ∃ w ∈ ws, ∃ j ∈ entera w, j.ganadorID = uid

/-- Some write of the list stores `uid` as the one who has abandoned. -/
def Abandona (ws : List Escritura) (uid : String) : Prop :=
  ∃ w ∈ ws, anotado w = some uid

instance (ws : List Escritura) (uid : String) : Decidable (Gana ws uid) :=
  inferInstanceAs (Decidable (∃ w ∈ ws, ∃ j ∈ entera w, j.ganadorID = uid))

instance (ws : List Escritura) (uid : String) : Decidable (Abandona ws uid) :=
  inferInstanceAs (Decidable (∃ w ∈ ws, anotado w = some uid))

def esPerdiste (d : Dialogo) : Bool :=
  match d.tvGanador with
  | .Ganaste _ => false
  | .Perdiste _ => true

/-- Player `l` has never been stored as the winner, and no dialog has told the
other player that he has lost. -/
def SinGanar (p : Partida) (l : Lado) (s : Estado) : Prop :=
  ¬Gana s.issued (p.uid l) ∧
    ∀ d ∈ (s.client l.otro).dialogos, esPerdiste d = false

/-- Whoever has abandoned has not won. -/
def AbandonarPierde (p : Partida) (s : Estado) : Prop :=
  ∀ l, Abandona s.issued (p.uid l) → p.SinGanar l s

/-- Player `l` is behind by the scores, where a tie is lost by the first
player. -/
def Detras : Lado → Jugada → Prop
  | .uno, j => j.puntosjugadorUnoID ≤ j.puntosjugadorDosID
  | .dos, j => j.puntosjugadorDosID < j.puntosjugadorUnoID

instance : (l : Lado) → (j : Jugada) → Decidable (Detras l j)
  | .uno, _ => inferInstanceAs (Decidable (_ ≤ _))
  | .dos, _ => inferInstanceAs (Decidable (_ < _))

/-- Player `l` refuses the invitation, or goes back with the match on his
screen. -/
def SeVa (l : Lado) (s : Estado) (a : Paso) : Prop :=
  a = .event l .cancelarJugada ∨
    (a = .event l (.mult .onBackPressed) ∧ (s.client l).jugada ≠ none)

/-- A screen ends the match on a copy in which player `l` is behind, and the
other player's listener takes an abandoned match only if `l` is behind in it. -/
def Perdedor (l : Lado) (s : Estado) (a : Paso) : Prop :=
  (∀ k ∈ acaba? a, ∀ j ∈ (s.client k).jugada, Detras l j) ∧
    ∀ k ∈ a.deliver?, k = l.otro → ∀ db ∈ (s.inbox k).head?,
      ∀ j ∈ MultPlayer.recogida (s.outbox k) db (s.client k),
        j.abandonoID ≠ "" → Detras l j

instance (l : Lado) (s : Estado) (a : Paso) : Decidable (SeVa l s a) :=
  inferInstanceAs (Decidable (_ ∨ _ ∧ _))

instance (l : Lado) (s : Estado) (a : Paso) : Decidable (Perdedor l s a) :=
  inferInstanceAs (Decidable (_ ∧ _))

/-! ## Winner and abandonment come from writes -/

/-- Winner and abandonment of a match have been written by somebody. -/
def Escrita (ws : List Escritura) (j : Jugada) : Prop :=
  (j.ganadorID ≠ "" → Gana ws j.ganadorID) ∧
    (j.abandonoID ≠ "" → Abandona ws j.abandonoID)

/-- Every copy of the match goes back to what has been issued. -/
def procedencia (p : Partida) :
    Parts Lado BaseDatos Escritura MultPlayer (List Escritura) where
  know := fun s => s.issued
  le := fun k k' => k ⊆ k'
  doc := fun k db => ∀ j, db.jugadas p.jugadaId = some j → Escrita k j
  write := fun k _ w => w ∈ k
  ack := fun _ _ _ => True
  shot := fun k _ db => ∀ j, db.jugadas p.jugadaId = some j → Escrita k j
  client := fun k _ m => ∀ j, m.jugada = some j → Escrita k j

theorem Gana.mono {ws ws' : List Escritura} {uid : String} (h : ws ⊆ ws')
    (hg : Gana ws uid) : Gana ws' uid := by
  obtain ⟨w, hw, hj⟩ := hg
  exact ⟨w, h hw, hj⟩

theorem Abandona.mono {ws ws' : List Escritura} {uid : String} (h : ws ⊆ ws')
    (ha : Abandona ws uid) : Abandona ws' uid := by
  obtain ⟨w, hw, hx⟩ := ha
  exact ⟨w, h hw, hx⟩

theorem Escrita.mono {ws ws' : List Escritura} {j : Jugada} (h : ws ⊆ ws')
    (he : Escrita ws j) : Escrita ws' j :=
  ⟨fun hne => (he.1 hne).mono h, fun hne => (he.2 hne).mono h⟩

/-- A match that is written whole is its own origin. -/
theorem escrita_of_mem {ws : List Escritura} {w : Escritura} {j : Jugada}
    (hw : w ∈ ws) (hj : entera w = some j) : Escrita ws j := by
  refine ⟨fun _ => ⟨w, hw, j, hj, rfl⟩, fun _ => ⟨w, hw, ?_⟩⟩
  cases w with
  | addJugada id i =>
      cases hj
      rfl
  | setJugada id i =>
      cases hj
      rfl
  | reclamar id i =>
      cases hj
      rfl
  | unirse id uid => cases hj
  | rechazar id uid => cases hj
  | deleteJugada id => cases hj
  | setUser uid u => cases hj

theorem escrita_aplicar {p : Partida} {l : Lado} {db : BaseDatos}
    {w : Escritura} {ws : List Escritura} (hperm : p.Permitida l w)
    (hw : w ∈ ws)
    (hdb : ∀ j, db.jugadas p.jugadaId = some j → Escrita ws j) :
    ∀ j, (db.aplicar w).1.jugadas p.jugadaId = some j → Escrita ws j := by
  intro j hj
  rw [hperm.aplicar db] at hj
  cases w with
  | addJugada id i => exact hperm.elim
  | setJugada id i => exact escrita_of_mem hw hj
  | reclamar id i => exact escrita_of_mem hw hj
  | unirse id uid =>
      obtain ⟨i, hdoc, rfl⟩ := Option.map_eq_some_iff.mp hj
      exact hdb i hdoc
  | rechazar id uid =>
      obtain ⟨i, hdoc, rfl⟩ := Option.map_eq_some_iff.mp hj
      exact ⟨(hdb i hdoc).1, fun _ => ⟨_, hw, rfl⟩⟩
  | deleteJugada id => exact hperm.elim
  | setUser uid u => exact hdb j hj

/-- An event leaves on the screen a match that was there or has been
written. -/
theorem escrita_event {db vista : BaseDatos} {m m' : MultPlayer}
    {e : Suceso} {ws k : List Escritura} (hm : ∀ j, m.jugada = some j → Escrita k j)
    (hk : ws ⊆ k) (h : react db vista m e = some (m', ws)) :
    ∀ j, m'.jugada = some j → Escrita k j := by
  intro i hi
  rcases react_efecto h with ⟨imagen, aleatorio, j, -, ht⟩ |
    ⟨e', j, -, -, -, ht⟩ | ⟨e', -, -, hq⟩ | ⟨rfl, -⟩
  · rw [ht.jugada] at hi
    cases hi
    have hmem : .setJugada m.jugadaId
        (MultPlayer.tocada j (m.cuenta imagen j) aleatorio) ∈ ws := by
      rw [ht.writes]
      exact List.mem_singleton_self _
    exact escrita_of_mem (hk hmem) rfl
  · rw [ht.jugada] at hi
    cases hi
    exact escrita_of_mem (hk ht.guarda.jugada) rfl
  · rw [hq.jugada] at hi
    exact hm i hi
  · exact hm i hi

theorem procedencia_kept (p : Partida) :
    (procedencia p).Kept programa fun s _ => (asientos p).Holds s where
  grows := by
    intro s a s' _ _ hstep
    cases a with
    | event i e =>
        obtain ⟨r, -, rfl⟩ := Program.step_event hstep
        exact List.subset_append_left _ _
    | arrive i =>
        obtain ⟨w, ws, -, rfl⟩ := Program.step_arrive hstep
        exact List.Subset.refl _
    | confirm i =>
        obtain ⟨w, b, rest, -, rfl⟩ := Program.step_confirm hstep
        exact List.subset_append_left _ _
    | deliver i =>
        obtain ⟨d, rest, -, rfl⟩ := Program.step_deliver hstep
        exact List.subset_append_left _ _
    | skip i =>
        obtain ⟨d, rest, -, rfl⟩ := Program.step_skip hstep
        exact List.Subset.refl _
  doc_mono := fun hle h j hj => (h j hj).mono hle
  write_mono := fun hle h => hle h
  ack_mono := fun _ h => h
  shot_mono := fun hle h j hj => (h j hj).mono hle
  client_mono := fun hle h j hj => (h j hj).mono hle
  receive := by
    intro s i w ws hs hok hbox
    have hw : w ∈ s.outbox i := mem_of_eq_cons hbox
    have hdoc := escrita_aplicar (hok.outbox i w hw) (hs.outbox i w hw)
      hs.server
    exact ⟨hdoc, trivial, fun _ _ => hdoc⟩
  react := by
    rintro s i e ⟨m', ws⟩ hs hok hreact
    have hold : s.issued ⊆ (programa.settle s i (m', ws)).issued :=
      List.subset_append_left _ _
    have hnew : ws ⊆ (programa.settle s i (m', ws)).issued :=
      List.subset_append_right _ _
    refine ⟨?_, fun w hw => hnew hw, fun _ j hj => (hs.server j hj).mono hold⟩
    exact escrita_event (fun j hj => (hs.clients i j hj).mono hold) hnew hreact
  confirm := by
    intro s i w b rest s' hs _ _ hstep
    obtain ⟨_, _, _, -, rfl⟩ := Program.step_confirm hstep
    have hold : s.issued ⊆ s.issued ++ [] := List.subset_append_left _ _
    exact ⟨fun j hj => (hs.clients i j hj).mono hold,
      List.forall_mem_nil _,
      fun _ j hj => (hs.server j hj).mono hold⟩
  deliver := by
    intro s i d rest s' hs hok hbox hstep
    obtain ⟨_, _, -, rfl⟩ := Program.step_deliver hstep
    have hd : d ∈ s.inbox i := mem_of_eq_cons hbox
    have hold : ∀ ws : List Escritura, s.issued ⊆ s.issued ++ ws :=
      fun ws => List.subset_append_left _ _
    have hjug := (hok.clients i).1.jugadaId
    rcases MultPlayer.snapshot_cases (s.outbox i) d (s.client i) with hsame |
      ⟨-, -, j, m', hj, hsnap, hrec⟩
    · have hsame' : programa.snapshot (s.outbox i) d (s.client i) =
          (s.client i, []) := hsame
      rw [hsame']
      exact ⟨fun j hj => (hs.clients i j hj).mono (hold _),
        List.forall_mem_nil _,
        fun _ j hj => (hs.server j hj).mono (hold _)⟩
    · have hsnap' : programa.snapshot (s.outbox i) d (s.client i) =
          (m', []) := hsnap
      rw [hsnap']
      refine ⟨?_, List.forall_mem_nil _,
        fun _ j hj => (hs.server j hj).mono (hold _)⟩
      intro k hk
      rw [hrec.jugada] at hk
      cases hk
      rw [hjug] at hj
      exact (hs.inbox i d hd j hj).mono (hold _)

/-! ## What a step adds -/

theorem esPerdiste_veredicto {m : MultPlayer} {j : Jugada} {d : Dialogo}
    (hd : d.tvGanador = m.veredicto j) :
    esPerdiste d = true ↔ MultPlayer.ganador j ≠ m.uid := by
  unfold esPerdiste
  rw [hd]
  unfold MultPlayer.veredicto MultPlayer.ganador
  by_cases hgt : j.puntosjugadorUnoID > j.puntosjugadorDosID
  · by_cases huid : j.jugadorUnoID = m.uid
    · simp [hgt, huid]
    · simp [hgt, huid]
  · by_cases huid : j.jugadorDosID = m.uid
    · simp [hgt, huid]
    · simp [hgt, huid]

/-- Who is behind is not the winner by the scores. -/
theorem Sentados.detras_iff {p : Partida} {j : Jugada} (h : p.Sentados j)
    (l : Lado) : Detras l j ↔ MultPlayer.ganador j ≠ p.uid l := by
  rw [h.ganador]
  unfold ganadorDe
  cases l with
  | uno =>
      by_cases hgt : j.puntosjugadorUnoID > j.puntosjugadorDosID
      · simp [Detras, uid, hgt]
      · have hle : j.puntosjugadorUnoID ≤ j.puntosjugadorDosID := by omega
        simp [Detras, uid, p.uno_ne_dos.symm, hle]
  | dos =>
      by_cases hgt : j.puntosjugadorUnoID > j.puntosjugadorDosID
      · simp [Detras, uid, hgt, p.uno_ne_dos]
      · simp [Detras, uid, hgt]

/-- Then the other player is. -/
theorem Sentados.detras_iff_otro {p : Partida} {j : Jugada}
    (h : p.Sentados j) (l : Lado) :
    Detras l j ↔ MultPlayer.ganador j = p.uid l.otro := by
  rw [h.detras_iff, h.ganador]
  unfold ganadorDe
  split
  · cases l with
    | uno => simp [uid, Lado.otro, p.uno_ne_dos]
    | dos => simp [uid, Lado.otro, p.uno_ne_dos]
  · cases l with
    | uno => simp [uid, Lado.otro, p.uno_ne_dos.symm]
    | dos => simp [uid, Lado.otro, p.uno_ne_dos.symm]

theorem gana_append {ws ws' : List Escritura} {uid : String} :
    Gana (ws ++ ws') uid ↔ Gana ws uid ∨ Gana ws' uid := by
  simp only [Gana, List.mem_append, or_and_right, exists_or]

theorem abandona_append {ws ws' : List Escritura} {uid : String} :
    Abandona (ws ++ ws') uid ↔ Abandona ws uid ∨ Abandona ws' uid := by
  simp only [Abandona, List.mem_append, or_and_right, exists_or]

theorem gana_nil (uid : String) : ¬Gana [] uid := by
  rintro ⟨w, hw, -⟩
  cases hw

theorem abandona_nil (uid : String) : ¬Abandona [] uid := by
  rintro ⟨w, hw, -⟩
  cases hw

theorem abandona_singleton {w : Escritura} {uid : String} :
    Abandona [w] uid ↔ anotado w = some uid := by
  simp only [Abandona, List.mem_singleton, exists_eq_left]

theorem gana_singleton {w : Escritura} {uid : String} :
    Gana [w] uid ↔ ∃ j ∈ entera w, j.ganadorID = uid := by
  simp only [Gana, List.mem_singleton, exists_eq_left]

/-- The match is all that is noted of winner and abandonment in the writes of a
handler that stores it. -/
theorem abandona_guarda {m : MultPlayer} {j : Jugada} {ws : List Escritura}
    (h : MultPlayer.Guarda m j ws) (uid : String) :
    Abandona ws uid ↔ j.abandonoID = uid := by
  constructor
  · rintro ⟨w, hw, hx⟩
    rcases h.todas w hw with rfl | ⟨u, rfl⟩
    · exact Option.some.inj hx
    · cases hx
  · rintro rfl
    exact ⟨_, h.jugada, rfl⟩

theorem gana_guarda {m : MultPlayer} {j : Jugada} {ws : List Escritura}
    (h : MultPlayer.Guarda m j ws) (uid : String) :
    Gana ws uid ↔ j.ganadorID = uid := by
  constructor
  · rintro ⟨w, hw, i, hi, hgan⟩
    rcases h.todas w hw with rfl | ⟨u, rfl⟩
    · rw [← Option.some.inj hi] at hgan
      exact hgan
    · cases hi
  · rintro rfl
    exact ⟨_, h.jugada, j, rfl, rfl⟩

theorem Escrita.abandona {p : Partida} {ws : List Escritura} {j : Jugada}
    {l : Lado} (h : Escrita ws j) (hab : j.abandonoID = p.uid l) :
    Abandona ws (p.uid l) := by
  rw [← hab]
  exact h.2 (hab ▸ p.uid_ne_vacio l)

theorem Escrita.gana {p : Partida} {ws : List Escritura} {j : Jugada}
    {l : Lado} (h : Escrita ws j) (hgan : j.ganadorID = p.uid l) :
    Gana ws (p.uid l) := by
  rw [← hgan]
  exact h.1 (hgan ▸ p.uid_ne_vacio l)

/-- What holds in every run: the seats, the origin of winners and abandonments,
and that a screen that is up has a clock to cancel once it has the match. -/
structure Fundada (p : Partida) (s : Estado) : Prop where
  asientos : (asientos p).Holds s
  procedencia : (procedencia p).Holds s
  quiet : programa.Quiet s
  sana : ∀ l, (s.client l).caida = false → MultPlayer.Sana (s.client l)

theorem Fundada.step {p : Partida} {s s' : Estado} {a : Paso}
    (h : p.Fundada s) (hstep : programa.step s a = some s') :
    p.Fundada s' := by
  refine ⟨asientos_step h.asientos hstep,
    (procedencia_kept p).step h.procedencia h.asientos hstep,
    Program.step_quiet h.quiet hstep, fun l hviva => ?_⟩
  rcases step_avanza h.quiet hstep l with hsame | ⟨b, hb⟩
  · rw [hsame] at hviva ⊢
    exact h.sana l hviva
  · exact (h.sana l (MultPlayer.caida_of_avanza hb)).paso hb hviva

section Event

variable {p : Partida} {s : Estado} {k : Lado} {e : Suceso} {m' : MultPlayer}
  {ws : List Escritura}

/-- An event notes an abandonment that is known already, unless somebody
abandons. -/
theorem Fundada.abandona_event (h : p.Fundada s)
    (hreact : react s.server (programa.view s k) (s.client k) e =
      some (m', ws)) (l : Lado) :
    Abandona (s.issued ++ ws) (p.uid l) ↔
      Abandona s.issued (p.uid l) ∨ SeVa l s (.event k e) := by
  obtain ⟨hjug, -⟩ := h.asientos.clients k
  have hself : (s.client k).uid = p.uid l ↔ k = l := by
    rw [hjug.uid]
    exact p.uid_injective.eq_iff
  rw [abandona_append]
  rcases react_efecto hreact with ⟨imagen, aleatorio, j, rfl, ht⟩ |
    ⟨e', j, rfl, hgame, hj, ht⟩ | ⟨e', rfl, hcall, hq⟩ |
    ⟨rfl, j, w, hj, -, rfl, hw⟩
  · have hno : ¬SeVa l s (.event k (.mult (.clic imagen aleatorio))) := by
      rintro (heq | ⟨heq, -⟩) <;> cases heq
    rw [or_iff_left hno, abandona_guarda ht.guarda]
    exact or_iff_left_of_imp
      (h.procedencia.clients k j ht.antes).abandona
  · obtain ⟨i, hi, rfl | ⟨rfl, rfl⟩⟩ := (s.client k).alLlamar_jugada e' hj
    · rw [abandona_guarda ht.guarda]
      by_cases hback : e' = .onBackPressed
      · -- a back press has left its mark on the copy
        subst hback
        obtain ⟨i', hi', hmarca⟩ := Option.map_eq_some_iff.mp hj
        have hab : (MultPlayer.coronada j).abandonoID = (s.client k).uid := by
          rw [← hmarca]
          rfl
        rw [hab, hself]
        refine or_congr_right ⟨?_, ?_⟩
        · rintro rfl
          exact Or.inr ⟨rfl, by rw [hi]; exact Option.some_ne_none j⟩
        · rintro (heq | ⟨heq, -⟩) <;> cases heq
          rfl
      · have hno : ¬SeVa l s (.event k (.mult e')) := by
          rintro (heq | ⟨heq, -⟩)
          · cases heq
          · cases heq
            exact hback rfl
        rw [or_iff_left hno]
        exact or_iff_left_of_imp (h.procedencia.clients k j hi).abandona
    · rw [abandona_guarda ht.guarda]
      have hab : (MultPlayer.coronada
          { i with abandonoID := (s.client k).uid }).abandonoID =
            (s.client k).uid := rfl
      rw [hab, hself]
      refine or_congr_right ⟨?_, ?_⟩
      · rintro rfl
        exact Or.inr ⟨rfl, by rw [hi]; exact Option.some_ne_none i⟩
      · rintro (heq | ⟨heq, -⟩) <;> cases heq
        rfl
  · have hno : ¬SeVa l s (.event k (.mult e')) := by
      rintro (heq | ⟨heq, hcopia⟩)
      · cases heq
      · cases heq
        rcases hcall with hcall | hnone
        · cases hcall
        · exact hcopia hnone
    rw [or_iff_left hno, hq.writes, or_iff_left (abandona_nil _)]
  · rw [hjug.jugadaId] at hj
    have hescrita := h.procedencia.server j hj
    rw [abandona_singleton]
    rcases hw with ⟨rfl, rfl⟩ | ⟨rfl, -, rfl⟩ | ⟨rfl, rfl⟩
    · have hno : ¬SeVa l s (.event k .buscarJugadaRef) := by
        rintro (heq | ⟨heq, -⟩) <;> cases heq
      rw [or_iff_left hno]
      exact or_iff_left nofun
    · have hno : ¬SeVa l s (.event k .buscarJugadaLibre) := by
        rintro (heq | ⟨heq, -⟩) <;> cases heq
      rw [or_iff_left hno]
      exact or_iff_left_of_imp
        fun hab => hescrita.abandona (Option.some.inj hab)
    · refine or_congr_right ⟨fun hab => ?_, ?_⟩
      · obtain rfl := hself.mp (Option.some.inj hab)
        exact Or.inl rfl
      · rintro (heq | ⟨heq, -⟩) <;> cases heq
        exact congrArg some (hself.mpr rfl)

/-- An event stores a winner that is known already, or the one by the scores of
the copy on which the match is ended. -/
theorem Fundada.gana_event (h : p.Fundada s)
    (hreact : react s.server (programa.view s k) (s.client k) e =
      some (m', ws)) (l : Lado) :
    ¬Gana (s.issued ++ ws) (p.uid l) ↔
      ¬Gana s.issued (p.uid l) ∧
        ∀ i ∈ acaba? (.event k e), ∀ j ∈ (s.client i).jugada, Detras l j := by
  obtain ⟨hjug, -⟩ := h.asientos.clients k
  rw [gana_append, not_or]
  refine and_congr_right fun hnada => ?_
  rcases react_efecto hreact with ⟨imagen, aleatorio, j, rfl, ht⟩ |
    ⟨e', j, rfl, hgame, hj, ht⟩ | ⟨e', rfl, hcall, hq⟩ |
    ⟨rfl, j, w, hj, -, rfl, hw⟩
  · rw [gana_guarda ht.guarda]
    exact iff_of_true
      (mt (h.procedencia.clients k j ht.antes).gana hnada) nofun
  · obtain ⟨i, hi, hcopia⟩ := (s.client k).alLlamar_jugada e' hj
    have hgan : (MultPlayer.coronada j).ganadorID = MultPlayer.ganador i := by
      rcases hcopia with rfl | ⟨-, rfl⟩
      · rfl
      · rfl
    rw [gana_guarda ht.guarda, hgan, acaba?_of_esGameover hgame]
    have hdetras := (hjug.jugada i hi).detras_iff l
    constructor
    · intro hne c hc x hx
      obtain rfl : k = c := Option.some.inj hc
      rw [← Option.some.inj (hi.symm.trans hx)]
      exact hdetras.mpr hne
    · exact fun hall => hdetras.mp (hall k rfl i hi)
  · rw [hq.writes]
    refine iff_of_true (gana_nil _) fun i hacaba j hj => ?_
    rcases hcall with hcall | hnone
    · simp only [acaba?, MultPlayer.Suceso.not_esGameover hcall,
        Bool.false_eq_true, if_false, Option.not_mem_none] at hacaba
    · have hik : i = k := by
        simp only [acaba?] at hacaba
        split at hacaba
        · exact (Option.some.inj hacaba).symm
        · cases hacaba
      rw [hik, hnone] at hj
      cases hj
  · rw [hjug.jugadaId] at hj
    have hescrita := h.procedencia.server j hj
    rw [gana_singleton]
    rcases hw with ⟨rfl, rfl⟩ | ⟨rfl, -, rfl⟩ | ⟨rfl, rfl⟩
    · refine iff_of_true ?_ nofun
      rintro ⟨i, hi, -⟩
      cases hi
    · refine iff_of_true ?_ nofun
      rintro ⟨i, hi, hgan⟩
      cases hi
      exact hnada (hescrita.gana hgan)
    · refine iff_of_true ?_ nofun
      rintro ⟨i, hi, -⟩
      cases hi

/-- What an event adds to the dialogs of the screen on which it happens: nothing,
or a dialog on the copy on which the match is ended. -/
theorem dialogos_event (h : p.Fundada s)
    (hreact : react s.server (programa.view s k) (s.client k) e =
      some (m', ws)) :
    m'.dialogos = (s.client k).dialogos ∨
      ∃ d j, k ∈ acaba? (.event k e) ∧ (s.client k).jugada = some j ∧
        m'.dialogos = (s.client k).dialogos ++ [d] ∧
        (esPerdiste d = true ↔ MultPlayer.ganador j ≠ p.uid k) := by
  obtain ⟨hjug, -⟩ := h.asientos.clients k
  rcases react_efecto hreact with ⟨imagen, aleatorio, j, rfl, ht⟩ |
    ⟨e', j, rfl, hgame, hj, ht⟩ | ⟨e', rfl, hcall, hq⟩ |
    ⟨rfl, j, w, hj, -, rfl, hw⟩
  · exact Or.inl ht.dialogos
  · obtain ⟨i, hi, hcopia⟩ := (s.client k).alLlamar_jugada e' hj
    have hgan : MultPlayer.ganador j = MultPlayer.ganador i := by
      rcases hcopia with rfl | ⟨-, rfl⟩
      · rfl
      · rfl
    rcases ht.dialogos with hsame | ⟨d, hd, hver⟩
    · exact Or.inl (hsame.trans ((s.client k).alLlamar_dialogos e'))
    · refine Or.inr ⟨d, i, acaba?_of_esGameover hgame, hi, ?_, ?_⟩
      · rw [hd, MultPlayer.alLlamar_dialogos]
      · rw [esPerdiste_veredicto hver, hgan, MultPlayer.alLlamar_uid, hjug.uid]
  · exact Or.inl hq.dialogos
  · exact Or.inl rfl

/-- An event leaves player `l` without a win exactly when he was without one and
is behind on the copy on which the match is ended. -/
theorem Fundada.sinGanar_event (h : p.Fundada s)
    (hreact : react s.server (programa.view s k) (s.client k) e =
      some (m', ws)) (l : Lado) :
    p.SinGanar l (programa.settle s k (m', ws)) ↔
      p.SinGanar l s ∧
        ∀ i ∈ acaba? (.event k e), ∀ j ∈ (s.client i).jugada, Detras l j := by
  have hgana := h.gana_event hreact l
  unfold SinGanar
  rw [Program.settle_issued, hgana]
  refine Iff.trans (and_congr_right fun h' => ?_) and_right_comm
  obtain ⟨-, hdetras⟩ := h'
  by_cases hk : l.otro = k
  · subst hk
    rw [Program.settle_client_self]
    rcases dialogos_event h hreact with hsame | ⟨d, j, hacaba, hj, hmas, hper⟩
    · rw [hsame]
    · rw [hmas, List.forall_mem_append, List.forall_mem_singleton,
        and_iff_left]
      obtain ⟨hjug, -⟩ := h.asientos.clients l.otro
      have hgan := ((hjug.jugada j hj).detras_iff_otro l).mp
        (hdetras l.otro hacaba j hj)
      exact Bool.eq_false_iff.mpr fun htrue => hper.mp htrue hgan
  · rw [Program.settle_client_ne _ hk]

end Event

/-- A snapshot that a listener is given adds a dialog exactly where it takes an
abandoned match. -/
theorem Fundada.dialogos_deliver {p : Partida} {s : Estado} {k : Lado}
    {d : BaseDatos} {rest : List BaseDatos} (h : p.Fundada s)
    (hbox : s.inbox k = d :: rest) :
    (∀ x ∈ (MultPlayer.snapshot (s.outbox k) d (s.client k)).1.dialogos,
        esPerdiste x = false) ↔
      (∀ x ∈ (s.client k).dialogos, esPerdiste x = false) ∧
        ∀ j ∈ MultPlayer.recogida (s.outbox k) d (s.client k),
          j.abandonoID ≠ "" → MultPlayer.ganador j = p.uid k := by
  obtain ⟨hjug, -⟩ := h.asientos.clients k
  cases hrec : MultPlayer.recogida (s.outbox k) d (s.client k) with
  | none =>
      rw [MultPlayer.snapshot_of_not_recogida hrec]
      exact (and_iff_left nofun).symm
  | some j =>
      obtain ⟨hviva, hpend, hdoc⟩ := MultPlayer.recogida_eq_some.mp hrec
      have hlis : (s.client k).escucha = true := h.quiet.listens hbox
      have hstep := MultPlayer.avanza_snapshot hlis (s.outbox k) d
      rw [hpend, hdoc] at hstep
      have hs := h.sana k hviva
      have hsent : p.Sentados j := by
        obtain ⟨i, hi, hsent⟩ := h.asientos.inbox k d (mem_of_eq_cons hbox)
        rw [hjug.jugadaId, hi] at hdoc
        cases hdoc
        exact hsent
      have hasiento : ¬MultPlayer.SinAsiento j := by
        rintro (hvacio | hvacio)
        · exact p.uno_ne_vacio (hsent.1.symm.trans hvacio)
        · exact p.dos_ne_vacio (hsent.2.symm.trans hvacio)
      have hsolo : (∀ i ∈ some j, i.abandonoID ≠ "" →
          MultPlayer.ganador i = p.uid k) ↔
          (j.abandonoID ≠ "" → MultPlayer.ganador j = p.uid k) := by
        constructor
        · exact fun hall => hall j rfl
        · rintro hj i ⟨⟩
          exact hj
      rw [hsolo]
      rcases MultPlayer.avanza_entrega_cases
          (hs.oye (MultPlayer.avanza_entrega hstep).2.1) hs.alRecibir_reloj
          hstep with ⟨hpasa, -⟩ | ⟨i, -, hi, ⟨-, hvacio, -⟩ |
          ⟨-, hab, hm⟩ | ⟨-, hab, t, -, hm⟩⟩
      · rcases hpasa with hpend' | hnone
        · cases hpend'
        · cases hnone
      · cases hi
        exact absurd hvacio hasiento
      · cases hi
        have hdial : (MultPlayer.alSeguir j (s.client k)).dialogos =
            (s.client k).dialogos := MultPlayer.alRecibir_dialogos _ j
        rw [hm, hdial]
        exact (and_iff_left fun hne => absurd hab hne).symm
      · cases hi
        rw [hm]
        simp only [MultPlayer.conDialogo, MultPlayer.alRecibir_dialogos]
        rw [List.forall_mem_append, List.forall_mem_singleton]
        refine and_congr_right fun _ => ?_
        rw [← Bool.not_eq_true, esPerdiste_veredicto rfl, not_not]
        simp only [MultPlayer.alRecibir_uid, hjug.uid]
        exact ⟨fun hgan _ => hgan, fun hall => hall hab⟩

/-- A snapshot leaves player `l` without a win exactly when he was without one
and is behind in the abandoned match that the other player's listener takes. -/
theorem Fundada.sinGanar_deliver {p : Partida} {s : Estado} {k : Lado}
    {d : BaseDatos} {rest : List BaseDatos} (h : p.Fundada s)
    (hbox : s.inbox k = d :: rest) (l : Lado) :
    p.SinGanar l (programa.settle
        { s with inbox := Function.update s.inbox k rest } k
        (programa.snapshot (s.outbox k) d (s.client k))) ↔
      p.SinGanar l s ∧ (k = l.otro →
        ∀ j ∈ MultPlayer.recogida (s.outbox k) d (s.client k),
          j.abandonoID ≠ "" → Detras l j) := by
  have hws : (programa.snapshot (s.outbox k) d (s.client k)).2 = [] := by
    rcases MultPlayer.snapshot_cases (s.outbox k) d (s.client k) with hsame |
      ⟨-, -, j, m', -, hsnap, -⟩
    · exact congrArg Prod.snd hsame
    · exact congrArg Prod.snd hsnap
  unfold SinGanar
  rw [Program.settle_issued, hws, List.append_nil, and_assoc]
  refine and_congr_right fun _ => ?_
  by_cases hk : l.otro = k
  · subst hk
    rw [Program.settle_client_self]
    refine (h.dialogos_deliver hbox).trans (and_congr_right fun _ => ?_)
    refine Iff.trans ?_ (forall_prop_of_true rfl).symm
    refine forall_congr' fun j => forall_congr' fun hj => ?_
    have hsent : p.Sentados j := by
      obtain ⟨hjug, -⟩ := h.asientos.clients l.otro
      obtain ⟨-, -, hdoc⟩ := MultPlayer.recogida_eq_some.mp hj
      obtain ⟨i, hi, hsent⟩ := h.asientos.inbox l.otro d (mem_of_eq_cons hbox)
      rw [hjug.jugadaId, hi] at hdoc
      cases hdoc
      exact hsent
    exact imp_congr_right fun _ => (hsent.detras_iff_otro l).symm
  · rw [Program.settle_client_ne _ hk]
    exact (and_iff_left fun heq => absurd heq.symm hk).symm

/-! ## Whole runs -/

/-- What a step makes of an abandonment and of a win. -/
theorem Fundada.cuenta {p : Partida} {s s' : Estado} {a : Paso}
    (h : p.Fundada s) (hstep : programa.step s a = some s') (l : Lado) :
    (¬Abandona s'.issued (p.uid l) ↔
        ¬Abandona s.issued (p.uid l) ∧ ¬SeVa l s a) ∧
      (p.SinGanar l s' ↔ p.SinGanar l s ∧ Perdedor l s a) := by
  have hfuera : (∀ k e, a ≠ .event k e) → ¬SeVa l s a := by
    rintro hno (rfl | ⟨rfl, -⟩)
    · exact hno _ _ rfl
    · exact hno _ _ rfl
  cases a with
  | event k e =>
      obtain ⟨⟨m', ws⟩, hreact, rfl⟩ := Program.step_event hstep
      refine ⟨?_, ?_⟩
      · rw [Program.settle_issued, h.abandona_event hreact, not_or]
      · refine (h.sinGanar_event hreact l).trans (and_congr_right fun _ => ?_)
        exact (and_iff_left nofun).symm
  | arrive k =>
      obtain ⟨w, ws, -, rfl⟩ := Program.step_arrive hstep
      exact ⟨(and_iff_left (hfuera nofun)).symm,
        (and_iff_left ⟨nofun, nofun⟩).symm⟩
  | confirm k =>
      obtain ⟨w, b, rest, -, rfl⟩ := Program.step_confirm hstep
      have hissued : (programa.settle
          { s with acks := Function.update s.acks k rest } k
          (programa.ack w b (s.client k))).issued = s.issued :=
        List.append_nil s.issued
      have hdial : ∀ i, ((programa.settle
          { s with acks := Function.update s.acks k rest } k
          (programa.ack w b (s.client k))).client i).dialogos =
            (s.client i).dialogos := by
        intro i
        by_cases hi : i = k
        · subst hi
          rw [Program.settle_client_self]
          rfl
        · rw [Program.settle_client_ne _ hi]
      refine ⟨?_, ?_⟩
      · rw [hissued]
        exact (and_iff_left (hfuera nofun)).symm
      · unfold SinGanar
        rw [hissued, hdial]
        exact (and_iff_left ⟨nofun, nofun⟩).symm
  | deliver k =>
      have hissued : s'.issued = s.issued := by
        rw [Program.step_issued hstep, issues_deliver, List.append_nil]
      obtain ⟨d, rest, hbox, rfl⟩ := Program.step_deliver hstep
      refine ⟨?_, ?_⟩
      · rw [hissued]
        exact (and_iff_left (hfuera nofun)).symm
      · refine (h.sinGanar_deliver hbox l).trans
          (and_congr_right fun _ => ?_)
        constructor
        · refine fun hall => ⟨nofun, ?_⟩
          rintro i ⟨⟩ hi db hdb
          rw [hbox] at hdb
          cases hdb
          exact hall hi
        · exact fun hall hk => hall.2 k rfl hk d (by rw [hbox]; rfl)
  | skip k =>
      obtain ⟨d, rest, -, rfl⟩ := Program.step_skip hstep
      exact ⟨(and_iff_left (hfuera nofun)).symm,
        (and_iff_left ⟨nofun, nofun⟩).symm⟩

theorem fundada_inicial {p : Partida} {db : BaseDatos}
    (h : p.SinResultado db) : p.Fundada (p.inicial db) := by
  obtain ⟨j, hj, hmesa, hgan, haband⟩ := h
  refine ⟨asientos_inicial ⟨j, hj, hmesa⟩, ⟨?_, ?_, fun _ _ _ => trivial, ?_,
    fun _ => nofun⟩, fun _ _ => rfl,
    fun l _ => MultPlayer.sana_creada (p.uid l) p.jugadaId⟩
  · intro k hk
    have hk' : db.jugadas p.jugadaId = some k := hk
    rw [hj] at hk'
    cases hk'
    exact ⟨fun hne => absurd hgan hne, fun hne => absurd haband hne⟩
  · intro l w hw
    cases hw
  · intro l d hd
    cases hd

/-- In a run of a match from its creation whoever goes back or refuses is never
stored as the winner, and the other player is never told that he has lost,
exactly when each player who does so at some step is behind at every step: on
each copy on which the match is ended, and in each abandoned match that the
other player's listener takes. -/
theorem abandonar_pierde_iff {p : Partida} {db : BaseDatos} {acts : List Paso}
    {s : Estado} (hdb : p.SinResultado db)
    (hrun : Runs.run programa.step (p.inicial db) acts = some s) :
    p.AbandonarPierde s ↔
      ∀ l, Runs.Along programa.step (fun s a => ¬SeVa l s a) (p.inicial db)
          acts ∨
        Runs.Along programa.step (Perdedor l) (p.inicial db) acts := by
  have hfundada := fundada_inicial hdb
  refine forall_congr' fun l => ?_
  have habandona := Runs.end_iff_along (I := p.Fundada)
    (P := fun s => ¬Abandona s.issued (p.uid l))
    (fun _ _ _ h hs => h.step hs) (fun _ _ _ h hs => (h.cuenta hs l).1)
    hfundada hrun
  have hgana := Runs.end_iff_along (I := p.Fundada) (P := p.SinGanar l)
    (fun _ _ _ h hs => h.step hs) (fun _ _ _ h hs => (h.cuenta hs l).2)
    hfundada hrun
  have hnada : p.SinGanar l (p.inicial db) := ⟨gana_nil _, nofun⟩
  have hsin : ¬Abandona (p.inicial db).issued (p.uid l) := abandona_nil _
  rw [and_iff_right hsin] at habandona
  rw [and_iff_right hnada] at hgana
  rw [imp_iff_not_or, habandona, hgana]

/-- The game as `a` has created it, with an invitation for `b`. -/
def baseInvitacion : BaseDatos :=
  (((BaseDatos.vacia.conJugada "j" (some (Jugada.nueva "a" "b"))).conCreador
    "j" "a").conUser "a" (User.nuevo "Ana" 0 0 "")).conUser "b"
    (User.nuevo "Blas" 0 0 "")

/-- Player `a` scores; `b` goes back and `a` is told. -/
def abandonaElQuePierde : List Paso :=
  [.event .dos .buscarJugadaRef, .arrive .dos] ++ entra .uno ++ entra .dos ++
    [.event .uno (.mult (.clic .IvjUno (sale 0))), .arrive .uno, .deliver .uno,
      .deliver .dos, .event .dos (.mult .onBackPressed), .arrive .dos,
      .arrive .dos, .deliver .uno]

theorem abandonar_pierde_deAyB :
    ∃ s, Runs.run programa.step (deAyB.inicial baseInvitacion)
        abandonaElQuePierde = some s ∧ deAyB.AbandonarPierde s := by
  obtain ⟨s, hrun⟩ := Option.isSome_iff_exists.mp
    (show (Runs.run programa.step (deAyB.inicial baseInvitacion)
      abandonaElQuePierde).isSome = true by decide)
  refine ⟨s, hrun, (abandonar_pierde_iff
    ⟨_, rfl, ⟨rfl, Or.inl rfl⟩, rfl, rfl⟩ hrun).mpr ?_⟩
  intro l
  cases l with
  | uno => exact Or.inl (by decide)
  | dos => exact Or.inr (by decide)

/-- Player `b` refuses the invitation; `a` is told and leaves. -/
def rechazaLaInvitacion : List Paso :=
  [.event .dos .cancelarJugada, .arrive .dos] ++ entra .uno ++
    [.event .uno (.mult .onStop)]

/-- The player who has refused is stored as the winner. -/
theorem rechazar_gana :
    ∃ s, Runs.run programa.step (deAyB.inicial baseInvitacion)
        rechazaLaInvitacion = some s ∧ ¬deAyB.AbandonarPierde s := by
  have hhechos : (Runs.run programa.step (deAyB.inicial baseInvitacion)
      rechazaLaInvitacion).map (fun s => (decide (Abandona s.issued "b"),
        decide (Gana s.issued "b"))) = some (true, true) := by decide
  obtain ⟨s, hrun, h⟩ := Option.map_eq_some_iff.mp hhechos
  simp only [Prod.mk.injEq, decide_eq_true_eq] at h
  exact ⟨s, hrun, fun hpierde => (hpierde .dos h.1).1 h.2⟩

end Tocate.Partida
