import Tocate.Partida.System

/-!
# The result

The result of a match is its winner with the two scores.  Each screen ends the
match by its own countdown and works out the winner from its own copy.  The
result is final and both dialogs agree as long as nobody taps any more once
there is a result, whoever ends the match then does so on the scores of that
result, and no match without a winner is still on its way when the first result
arrives.
-/

namespace Tocate.Partida

open Cloud

/-- The winner and the two scores. -/
def resultado (j : Jugada) : String × ℤ × ℤ :=
  (j.ganadorID, j.puntosjugadorUnoID, j.puntosjugadorDosID)

/-- The winner and the scores that the database shows for the match. -/
def marca (p : Partida) (db : BaseDatos) : String × ℤ × ℤ :=
  match db.jugadas p.jugadaId with
  | none => ("", 0, 0)
  | some j => resultado j

/-- The match that a write stores whole. -/
def entera : Escritura → Option Jugada
  | .setJugada _ j | .reclamar _ j | .addJugada _ j => some j
  | .unirse _ _ | .rechazar _ _ | .deleteJugada _ | .setUser _ _ => none

/-- What a write stores as winner and scores, if it stores anything there. -/
def escrito (w : Escritura) : Option (String × ℤ × ℤ) :=
  (entera w).map resultado

theorem marca_aplicar {p : Partida} {l : Lado} {db : BaseDatos}
    {w : Escritura} {j : Jugada} (hw : p.Permitida l w)
    (hj : db.jugadas p.jugadaId = some j) :
    p.marca (db.aplicar w).1 = (escrito w).getD (p.marca db) := by
  unfold marca
  rw [hw.aplicar db, hj]
  cases w with
  | addJugada id i => exact hw.elim
  | deleteJugada id => exact hw.elim
  | _ => rfl

/-- The result on the server, as an attribute of the database. -/
def decidida (p : Partida) : Attribute programa (String × ℤ × ℤ) where
  ok := fun w => ∃ l, p.Permitida l w
  of := fun db => if (p.marca db).1 = "" then none else some (p.marca db)
  keeps := fun x w => ∀ y ∈ escrito w, y = x
  kept_iff := by
    rintro db w x ⟨l, hw⟩ hdb
    by_cases hnone : (p.marca db).1 = ""
    · rw [if_pos hnone] at hdb
      cases hdb
    · rw [if_neg hnone] at hdb
      cases hdb
      obtain ⟨j, hj⟩ : ∃ j, db.jugadas p.jugadaId = some j := by
        cases hdoc : db.jugadas p.jugadaId with
        | none => simp [marca, hdoc] at hnone
        | some j => exact ⟨j, rfl⟩
      have happ : p.marca (programa.apply db w).1 = _ := marca_aplicar hw hj
      rw [happ]
      cases hw : escrito w with
      | none => simp [hnone]
      | some y =>
          constructor
          · intro h z hz
            cases hz
            rw [Option.getD_some] at h
            split at h
            · cases h
            · exact Option.some.inj h
          · intro h
            rw [Option.getD_some, h y rfl, if_neg hnone]

theorem decidida_of {p : Partida} {db : BaseDatos} {x : String × ℤ × ℤ} :
    (decidida p).of db = some x ↔ p.marca db = x ∧ x.1 ≠ "" := by
  simp only [decidida]
  split
  next hnone =>
    constructor
    · intro h
      cases h
    · rintro ⟨rfl, hne⟩
      exact absurd hnone hne
  next hne =>
    constructor
    · intro h
      cases h
      exact ⟨rfl, hne⟩
    · rintro ⟨rfl, -⟩
      rfl

theorem decidida_of_none {p : Partida} {db : BaseDatos} :
    (decidida p).of db = none ↔ (p.marca db).1 = "" := by
  simp [decidida]

/-- The results that are stored or on their way. -/
def vigentes (p : Partida) (s : Estado) : List (String × ℤ × ℤ) :=
  (p.marca s.server ::
    (s.outbox .uno ++ s.outbox .dos).filterMap escrito).filter
      fun x => x.1 ≠ ""

/-- Once there is a result, stored or on its way, no screen with the match on
it is tapped, and a screen ends the match on a copy with the scores of that
result only; and when the first result arrives, every whole match in flight has
a winner. -/
def Firme (p : Partida) (s : Estado) (a : Paso) : Prop :=
  (∀ c ∈ toca? a, (s.client c.1).jugada ≠ none → p.vigentes s = []) ∧
    (∀ l ∈ acaba? a, ∀ x ∈ p.vigentes s, ∀ j ∈ (s.client l).jugada,
      (j.puntosjugadorUnoID, j.puntosjugadorDosID) = x.2) ∧
    ∀ l ∈ a.arrive?, (p.marca s.server).1 = "" →
      (∃ x ∈ (s.outbox l).head?.bind escrito, x.1 ≠ "") →
        ∀ v ∈ (s.outbox l).tail ++ s.outbox l.otro,
          ∀ y ∈ escrito v, y.1 ≠ ""

instance (p : Partida) (s : Estado) (a : Paso) : Decidable (p.Firme s a) :=
  inferInstanceAs (Decidable (_ ∧ _ ∧ _))

theorem mem_vigentes {p : Partida} {s : Estado} {x : String × ℤ × ℤ} :
    x ∈ p.vigentes s ↔
      x.1 ≠ "" ∧
        (p.marca s.server = x ∨ ∃ l, ∃ w ∈ s.outbox l, escrito w = some x) := by
  simp only [vigentes, List.mem_filter, List.mem_cons, List.mem_filterMap,
    List.mem_append, decide_eq_true_eq]
  constructor
  · rintro ⟨rfl | ⟨w, hw | hw, hx⟩, hne⟩
    · exact ⟨hne, Or.inl rfl⟩
    · exact ⟨hne, Or.inr ⟨.uno, w, hw, hx⟩⟩
    · exact ⟨hne, Or.inr ⟨.dos, w, hw, hx⟩⟩
  · rintro ⟨hne, rfl | ⟨l, w, hw, hx⟩⟩
    · exact ⟨Or.inl rfl, hne⟩
    · cases l with
      | uno => exact ⟨Or.inr ⟨w, Or.inl hw, hx⟩, hne⟩
      | dos => exact ⟨Or.inr ⟨w, Or.inr hw, hx⟩, hne⟩

/-! ## Results are written once -/

/-- The winner that the scores give. -/
def ganadorDe (p : Partida) (x : ℤ × ℤ) : String :=
  if x.1 > x.2 then p.uno else p.dos

theorem Sentados.ganador {p : Partida} {j : Jugada} (h : p.Sentados j) :
    MultPlayer.ganador j =
      p.ganadorDe (j.puntosjugadorUnoID, j.puntosjugadorDosID) := by
  unfold MultPlayer.ganador ganadorDe
  rw [h.1, h.2]

theorem ganadorDe_ne_vacio (p : Partida) (x : ℤ × ℤ) :
    p.ganadorDe x ≠ "" := by
  unfold ganadorDe
  split
  · exact p.uno_ne_vacio
  · exact p.dos_ne_vacio

/-- All results that are stored or on their way are one, and its winner is the
one that its scores give. -/
structure Unico (p : Partida) (s : Estado) : Prop where
  unico : ∀ x ∈ p.vigentes s, ∀ y ∈ p.vigentes s, x = y
  ganador : ∀ x ∈ p.vigentes s, x.1 = p.ganadorDe x.2

/-- What is known of a match that a screen or the server may hold: its result
is stored or on its way, and an abandonment comes with a result. -/
def Conocida (k : String × ℤ × ℤ → Prop) (j : Jugada) : Prop :=
  (j.ganadorID ≠ "" → k (resultado j)) ∧
    (j.abandonoID ≠ "" → j.ganadorID ≠ "")

/-- The dialog of player `l` names the winner of the result `x`. -/
def Concuerda (p : Partida) (l : Lado) (x : String × ℤ × ℤ)
    (d : Dialogo) : Prop :=
  (∃ nombre, d.tvGanador = .Ganaste nombre) ↔ x.1 = p.uid l

/-- No result is made up: every copy of the match, every write and every
dialog goes back to a result that is stored or on its way. -/
def acuerdo (p : Partida) :
    Parts Lado BaseDatos Escritura MultPlayer (String × ℤ × ℤ → Prop) where
  know := fun s x => x ∈ p.vigentes s
  le := fun k k' => ∀ x, k x → k' x
  doc := fun k db => ∀ j, db.jugadas p.jugadaId = some j → Conocida k j
  write := fun k _ w =>
    (∀ j, entera w = some j → Conocida k j) ∧ ∀ id uid, w ≠ .rechazar id uid
  ack := fun _ _ _ => True
  shot := fun k _ db => ∀ j, db.jugadas p.jugadaId = some j → Conocida k j
  client := fun k l m =>
    (∀ j, m.jugada = some j → Conocida k j) ∧
      ∀ d ∈ m.dialogos, ∃ x, k x ∧ p.Concuerda l x d

theorem Conocida.mono {k k' : String × ℤ × ℤ → Prop} {j : Jugada}
    (hle : ∀ x, k x → k' x) (h : Conocida k j) : Conocida k' j :=
  ⟨fun hne => hle _ (h.1 hne), h.2⟩

/-- The verdict of a dialog says who has won by the scores. -/
theorem veredicto_ganaste {m : MultPlayer} {j : Jugada} :
    (∃ nombre, m.veredicto j = .Ganaste nombre) ↔
      MultPlayer.ganador j = m.uid := by
  unfold MultPlayer.veredicto MultPlayer.ganador
  split
  · by_cases huid : j.jugadorUnoID = m.uid
    · simp [huid]
    · simp [huid]
  · by_cases huid : j.jugadorDosID = m.uid
    · simp [huid]
    · simp [huid]

/-- A dialog that was opened on the match `j` names the winner by its
scores. -/
theorem concuerda_of_abre {p : Partida} {l : Lado} {m m' : MultPlayer}
    {j : Jugada} {k : String × ℤ × ℤ → Prop} {x : String × ℤ × ℤ}
    (huid : m.uid = p.uid l) (hx : k x)
    (hgan : x.1 = MultPlayer.ganador j)
    (hold : ∀ d ∈ m.dialogos, ∃ x, k x ∧ p.Concuerda l x d)
    (h : MultPlayer.AbreDialogo m j m') :
    ∀ d ∈ m'.dialogos, ∃ x, k x ∧ p.Concuerda l x d := by
  rcases h with hsame | ⟨d, hd, hver⟩
  · rw [hsame]
    exact hold
  · intro d' hd'
    rw [hd] at hd'
    rcases List.mem_append.mp hd' with hmem | hnew
    · exact hold d' hmem
    · rw [List.mem_singleton] at hnew
      subst hnew
      refine ⟨x, hx, ?_⟩
      unfold Concuerda
      rw [hver, veredicto_ganaste, hgan, huid]

/-- A client that moves takes no result away. -/
theorem mem_vigentes_settle {p : Partida} {s : Estado} {l : Lado}
    {r : MultPlayer × List Escritura} {x : String × ℤ × ℤ} :
    x ∈ p.vigentes (programa.settle s l r) ↔
      x ∈ p.vigentes s ∨
        (x.1 ≠ "" ∧ ∃ w ∈ r.2, escrito w = some x) := by
  rw [mem_vigentes, mem_vigentes]
  constructor
  · rintro ⟨hne, hserver | ⟨k, w, hw, hx⟩⟩
    · exact Or.inl ⟨hne, Or.inl hserver⟩
    · rcases Program.mem_settle_outbox hw with hold | ⟨-, hnew⟩
      · exact Or.inl ⟨hne, Or.inr ⟨k, w, hold, hx⟩⟩
      · exact Or.inr ⟨hne, w, hnew, hx⟩
  · rintro (⟨hne, hserver | ⟨k, w, hw, hx⟩⟩ | ⟨hne, w, hw, hx⟩)
    · exact ⟨hne, Or.inl hserver⟩
    · refine ⟨hne, Or.inr ⟨k, w, ?_, hx⟩⟩
      by_cases hk : k = l
      · subst hk
        rw [Program.settle_outbox_self]
        exact List.mem_append_left _ hw
      · rw [Program.settle_outbox_ne r hk]
        exact hw
    · refine ⟨hne, Or.inr ⟨l, w, ?_, hx⟩⟩
      rw [Program.settle_outbox_self]
      exact List.mem_append_right _ hw

/-- The arrival of a write leaves the results as they are, as long as what is
in flight keeps the stored one. -/
theorem mem_vigentes_receive {p : Partida} {s : Estado} {l : Lado}
    {w : Escritura} {ws : List Escritura} {x : String × ℤ × ℤ}
    (hs : (asientos p).Holds s) (hsafe : (decidida p).Safe s)
    (hbox : s.outbox l = w :: ws) :
    x ∈ p.vigentes (programa.receive s l w ws) ↔ x ∈ p.vigentes s := by
  obtain ⟨j, hj, -⟩ := hs.server
  have hw : w ∈ s.outbox l := mem_of_eq_cons hbox
  have happ : p.marca (s.server.aplicar w).1 = _ :=
    marca_aplicar (hs.outbox l w hw) hj
  rw [mem_vigentes, mem_vigentes]
  constructor
  · rintro ⟨hne, hserver | ⟨k, v, hv, hx⟩⟩
    · have hserver' : p.marca (s.server.aplicar w).1 = x := hserver
      rw [happ] at hserver'
      cases hesc : escrito w with
      | none =>
          rw [hesc] at hserver'
          exact ⟨hne, Or.inl hserver'⟩
      | some y =>
          rw [hesc] at hserver'
          cases hserver'
          exact ⟨hne, Or.inr ⟨l, w, hw, hesc⟩⟩
    · exact ⟨hne, Or.inr ⟨k, v, Program.mem_receive_outbox hbox hv, hx⟩⟩
  · rintro ⟨hne, hserver | ⟨k, v, hv, hx⟩⟩
    · refine ⟨hne, Or.inl ?_⟩
      show p.marca (s.server.aplicar w).1 = x
      rw [happ]
      cases hesc : escrito w with
      | none => exact hserver
      | some y =>
          exact hsafe x (decidida_of.mpr ⟨hserver, hne⟩) l w hw y hesc
    · by_cases hk : k = l
      · subst hk
        rw [hbox] at hv
        rcases List.mem_cons.mp hv with rfl | hrest
        · refine ⟨hne, Or.inl ?_⟩
          show p.marca (s.server.aplicar v).1 = x
          rw [happ, hx]
          rfl
        · refine ⟨hne, Or.inr ⟨k, v, ?_, hx⟩⟩
          rw [Program.receive_outbox_self]
          exact hrest
      · refine ⟨hne, Or.inr ⟨k, v, ?_, hx⟩⟩
        rw [Program.receive_outbox_ne w ws hk]
        exact hv

/-- The steps of the match screens and of the network. -/
def DePantalla (a : Paso) : Prop := ∀ x ∈ a.event?, x.2.esMult = true

instance : DecidablePred DePantalla := fun a =>
  inferInstanceAs (Decidable (∀ x ∈ a.event?, x.2.esMult = true))

/-- The state of a match whose result is agreed on. -/
structure Acordada (p : Partida) (s : Estado) : Prop where
  asientos : (asientos p).Holds s
  safe : (decidida p).Safe s
  unico : p.Unico s
  acuerdo : (acuerdo p).Holds s

/-- What a screen turns into under the condition: its match is known, its
dialogs name the winner, and what it stores is the result there is or, if there
is none, one that its scores give. -/
structure Prosigue (p : Partida) (s : Estado) (l : Lado)
    (r : MultPlayer × List Escritura) : Prop where
  move : (acuerdo p).Move programa
    (fun x => x ∈ p.vigentes (programa.settle s l r)) s.server l r
  igual : ∀ w ∈ r.2, ∀ y ∈ escrito w, ∀ x ∈ p.vigentes s, y = x
  uno : ∀ w ∈ r.2, ∀ y ∈ escrito w, ∀ v ∈ r.2, ∀ z ∈ escrito v, y = z
  ganador : ∀ w ∈ r.2, ∀ y ∈ escrito w, y.1 ≠ "" → y.1 = p.ganadorDe y.2

/-- A result in what a client issues is on its way afterwards. -/
theorem vigente_of_issued {p : Partida} {s : Estado} {l : Lado}
    {r : MultPlayer × List Escritura} {w : Escritura} {j : Jugada}
    (hw : w ∈ r.2) (hj : entera w = some j) (hne : j.ganadorID ≠ "") :
    resultado j ∈ p.vigentes (programa.settle s l r) :=
  mem_vigentes_settle.mpr (Or.inr ⟨hne, w, hw, by simp [escrito, hj]⟩)

/-- What was known stays known. -/
theorem vigente_settle {p : Partida} {s : Estado} {l : Lado}
    {r : MultPlayer × List Escritura} (x : String × ℤ × ℤ)
    (hx : x ∈ p.vigentes s) : x ∈ p.vigentes (programa.settle s l r) :=
  mem_vigentes_settle.mpr (Or.inl hx)

/-- A handler that stores the match `k` it leaves behind. -/
theorem prosigue_of_set {p : Partida} {s : Estado} {l : Lado} {k : Jugada}
    {m' : MultPlayer} {ws : List Escritura} (hs : p.Acordada s)
    (hws : MultPlayer.Guarda (s.client l) k ws)
    (hjug : m'.jugada = some k)
    (haband : k.abandonoID ≠ "" → k.ganadorID ≠ "")
    (higual : ∀ x ∈ p.vigentes s, resultado k = x)
    (hgan : k.ganadorID ≠ "" → k.ganadorID = p.ganadorDe (resultado k).2)
    (hdial : ∀ d ∈ m'.dialogos,
      ∃ x, x ∈ p.vigentes (programa.settle s l (m', ws)) ∧
        p.Concuerda l x d) :
    p.Prosigue s l (m', ws) := by
  have hconoce : Conocida
      (fun x => x ∈ p.vigentes (programa.settle s l (m', ws))) k :=
    ⟨fun hne => vigente_of_issued hws.jugada rfl hne, haband⟩
  have hesc : ∀ w ∈ ws, ∀ y ∈ escrito w, y = resultado k :=
    hws.forall_mem (fun _ hy => (Option.some.inj hy).symm) fun _ _ => nofun
  refine ⟨⟨⟨?_, hdial⟩, ?_, ?_⟩, ?_, ?_, ?_⟩
  · intro j hj
    rw [← Option.some.inj (hjug.symm.trans hj)]
    exact hconoce
  · refine hws.forall_mem ⟨fun j hj => ?_, nofun⟩ fun _ => ⟨nofun, nofun⟩
    rw [← Option.some.inj hj]
    exact hconoce
  · exact fun _ j hj => (hs.acuerdo.server j hj).mono vigente_settle
  · intro w hw y hy x hx
    rw [hesc w hw y hy]
    exact higual x hx
  · intro w hw y hy v hv z hz
    rw [hesc w hw y hy, hesc v hv z hz]
  · intro w hw y hy hne
    rw [hesc w hw y hy] at hne ⊢
    exact hgan hne

theorem prosigue_toque {p : Partida} {s : Estado} {l : Lado}
    {imagen : Imagen} {aleatorio : Fin 3} {j : Jugada} {m' : MultPlayer}
    {ws : List Escritura} (hs : p.Acordada s)
    (hok : p.Firme s (.event l (.mult (.clic imagen aleatorio))))
    (ht : MultPlayer.Toque (s.client l) imagen aleatorio j m' ws) :
    p.Prosigue s l (m', ws) := by
  obtain ⟨hcopia, hdial⟩ := hs.acuerdo.clients l
  obtain ⟨hgan, haband⟩ := hcopia j ht.antes
  have hsin : ∀ x, x ∉ p.vigentes s := by
    have hnil := hok.1 (l, imagen) rfl
      (by rw [ht.antes]; exact Option.some_ne_none j)
    rw [hnil]
    exact fun x => List.not_mem_nil
  refine prosigue_of_set hs ht.guarda ht.jugada haband
    (fun x hx => absurd hx (hsin x)) ?_ ?_
  · -- a copy with a winner would have its result stored or on its way
    exact fun hne => absurd (hgan hne) (hsin _)
  · rw [ht.dialogos]
    intro d hd
    obtain ⟨x, hx, hcon⟩ := hdial d hd
    exact ⟨x, vigente_settle x hx, hcon⟩

theorem prosigue_termina {p : Partida} {s : Estado} {l : Lado}
    {e : MultPlayer.Suceso} {j : Jugada} {m' : MultPlayer}
    {ws : List Escritura} (hs : p.Acordada s) (he : e.esGameover = true)
    (hok : p.Firme s (.event l (.mult e)))
    (hj : ((s.client l).alLlamar e).jugada = some j)
    (ht : MultPlayer.Termina ((s.client l).alLlamar e) j m' ws) :
    p.Prosigue s l (m', ws) := by
  obtain ⟨hcopia, hdial⟩ := hs.acuerdo.clients l
  obtain ⟨hjug, -⟩ := hs.asientos.clients l
  have hsent := hjug.alLlamar hj
  have hganador : (MultPlayer.coronada j).ganadorID =
      p.ganadorDe (resultado (MultPlayer.coronada j)).2 := hsent.ganador
  have hne : (MultPlayer.coronada j).ganadorID ≠ "" := by
    rw [hganador]
    exact p.ganadorDe_ne_vacio _
  refine prosigue_of_set hs ht.guarda ht.jugada (fun _ => hne) ?_
    (fun _ => hganador) ?_
  · intro x hx
    obtain ⟨k, hk, hcopia'⟩ := (s.client l).alLlamar_jugada e hj
    have hpuntos : (resultado (MultPlayer.coronada j)).2 = x.2 := by
      rw [← hok.2.1 l (acaba?_of_esGameover he) x hx k hk]
      rcases hcopia' with rfl | ⟨-, rfl⟩
      · rfl
      · rfl
    refine Prod.ext ?_ hpuntos
    -- either winner is the one that these scores give
    rw [hs.unico.ganador x hx, ← hpuntos]
    exact hganador
  · refine concuerda_of_abre ?_ (vigente_of_issued ht.guarda.jugada rfl hne) rfl
      ?_ ht.dialogos
    · rw [MultPlayer.alLlamar_uid, hjug.uid]
    · rw [MultPlayer.alLlamar_dialogos]
      intro d hd
      obtain ⟨x, hx, hcon⟩ := hdial d hd
      exact ⟨x, vigente_settle x hx, hcon⟩

theorem prosigue_quieta {p : Partida} {s : Estado} {l : Lado}
    {m' : MultPlayer} {ws : List Escritura} (hs : p.Acordada s)
    (hq : MultPlayer.Quieta (s.client l) m' ws) : p.Prosigue s l (m', ws) := by
  obtain ⟨hcopia, hdial⟩ := hs.acuerdo.clients l
  have hnil : ∀ w, w ∉ ws := by
    rw [hq.writes]
    exact fun w => List.not_mem_nil
  refine ⟨⟨⟨?_, ?_⟩, ?_, ?_⟩, ?_, ?_, ?_⟩
  · rw [hq.jugada]
    exact fun j hj => (hcopia j hj).mono vigente_settle
  · rw [hq.dialogos]
    intro d hd
    obtain ⟨x, hx, hcon⟩ := hdial d hd
    exact ⟨x, vigente_settle x hx, hcon⟩
  · exact fun w hw => absurd hw (hnil w)
  · exact fun _ j hj => (hs.acuerdo.server j hj).mono vigente_settle
  · exact fun w hw => absurd hw (hnil w)
  · exact fun w hw => absurd hw (hnil w)
  · exact fun w hw => absurd hw (hnil w)

/-- A move of a screen that writes nothing else than the result there is keeps
the agreement. -/
theorem Prosigue.acordada {p : Partida} {s : Estado} {l : Lado}
    {r : MultPlayer × List Escritura} (hs : p.Acordada s)
    (hr : p.Prosigue s l r)
    (hasientos : (Partida.asientos p).Holds (programa.settle s l r)) :
    p.Acordada (programa.settle s l r) := by
  have hown : ∀ x ∈ p.vigentes (programa.settle s l r), x ∈ p.vigentes s ∨
      ∃ w ∈ r.2, escrito w = some x := by
    intro x hx
    rcases mem_vigentes_settle.mp hx with hold | ⟨-, hnew⟩
    · exact Or.inl hold
    · exact Or.inr hnew
  refine ⟨hasientos, ?_, ⟨?_, ?_⟩, ?_⟩
  · intro x hx k w hw y hy
    have hvig : x ∈ p.vigentes s :=
      mem_vigentes.mpr ⟨(decidida_of.mp hx).2, Or.inl (decidida_of.mp hx).1⟩
    rcases Program.mem_settle_outbox hw with hold | ⟨-, hnew⟩
    · exact hs.safe x hx k w hold y hy
    · exact hr.igual w hnew y hy x hvig
  · intro x hx y hy
    rcases hown x hx with hx | ⟨w, hw, hx⟩
    · rcases hown y hy with hy | ⟨v, hv, hy⟩
      · exact hs.unico.unico x hx y hy
      · exact (hr.igual v hv y hy x hx).symm
    · rcases hown y hy with hy | ⟨v, hv, hy⟩
      · exact hr.igual w hw x hx y hy
      · exact hr.uno w hw x hx v hv y hy
  · intro x hx
    rcases mem_vigentes_settle.mp hx with hold | ⟨hne, w, hw, hx⟩
    · exact hs.unico.ganador x hold
    · exact hr.ganador w hw x hx hne
  · refine hr.move.holds ?_ ?_ ?_ ?_ ?_
    · exact fun j hj => (hs.acuerdo.server j hj).mono vigente_settle
    · intro k w hw
      obtain ⟨hcon, hrec⟩ := hs.acuerdo.outbox k w hw
      exact ⟨fun j hj => (hcon j hj).mono vigente_settle, hrec⟩
    · exact fun _ _ _ => trivial
    · intro k d hd j hj
      exact (hs.acuerdo.inbox k d hd j hj).mono vigente_settle
    · intro k
      obtain ⟨hcon, hdial⟩ := hs.acuerdo.clients k
      refine ⟨fun j hj => (hcon j hj).mono vigente_settle, fun d hd => ?_⟩
      obtain ⟨x, hx, hx'⟩ := hdial d hd
      exact ⟨x, vigente_settle x hx, hx'⟩

/-- Taking the next server state out of an inbox changes nothing else. -/
theorem Acordada.sin_aviso {p : Partida} {s : Estado} {l : Lado}
    {d : BaseDatos} {rest : List BaseDatos} (hs : p.Acordada s)
    (hbox : s.inbox l = d :: rest) :
    p.Acordada { s with inbox := Function.update s.inbox l rest } := by
  have hrest : rest ⊆ s.inbox l := subset_of_eq_cons hbox
  exact ⟨hs.asientos.delivered hrest rfl, hs.safe,
    ⟨hs.unico.unico, hs.unico.ganador⟩, hs.acuerdo.delivered hrest rfl⟩

theorem prosigue_event {p : Partida} {s : Estado} {l : Lado} {e : Suceso}
    {r : MultPlayer × List Escritura} (hs : p.Acordada s)
    (hpan : DePantalla (.event l e)) (hok : p.Firme s (.event l e))
    (hreact : react s.server (programa.view s l) (s.client l) e = some r) :
    p.Prosigue s l r := by
  obtain ⟨m', ws⟩ := r
  rcases react_efecto hreact with ⟨imagen, aleatorio, j, rfl, ht⟩ |
    ⟨e', j, rfl, hgame, hj, ht⟩ | ⟨e', rfl, -, hq⟩ |
    ⟨-, -, -, -, -, -, ⟨rfl, -⟩ | ⟨rfl, -⟩ | ⟨rfl, -⟩⟩
  · exact prosigue_toque hs hok ht
  · exact prosigue_termina hs hgame hok hj ht
  · exact prosigue_quieta hs hq
  · exact absurd (hpan _ rfl) Bool.false_ne_true
  · exact absurd (hpan _ rfl) Bool.false_ne_true
  · exact absurd (hpan _ rfl) Bool.false_ne_true

/-- A snapshot makes a result known to the screen and may open a dialog. -/
theorem prosigue_deliver {p : Partida} {s : Estado} {l : Lado} {d : BaseDatos}
    {pendientes : List Escritura} (hs : p.Acordada s) (hd : p.Empezada d)
    (hshot : ∀ j, d.jugadas p.jugadaId = some j →
      Conocida (fun x => x ∈ p.vigentes s) j) :
    p.Prosigue s l (MultPlayer.snapshot pendientes d (s.client l)) := by
  have hquieta : p.Prosigue s l (s.client l, []) :=
    prosigue_quieta hs ⟨rfl, rfl, rfl, rfl, rfl, rfl, rfl⟩
  obtain ⟨hjug, -⟩ := hs.asientos.clients l
  rcases MultPlayer.snapshot_cases pendientes d (s.client l) with hsame |
    ⟨-, -, j, m', hj, hsnap, hrec⟩
  · rw [hsame]
    exact hquieta
  · rw [hsnap]
    rw [hjug.jugadaId] at hj
    obtain ⟨k, hk, hsent⟩ := hd
    rw [hk] at hj
    cases hj
    have hcon := hshot j hk
    refine ⟨⟨⟨?_, ?_⟩, hquieta.move.writes, ?_⟩, hquieta.igual, hquieta.uno,
      hquieta.ganador⟩
    · intro k hk'
      rw [hrec.jugada] at hk'
      cases hk'
      exact hcon.mono vigente_settle
    · rcases hrec.dialogos with hsame | ⟨haband, habre⟩
      · rw [hsame]
        exact hquieta.move.client.2
      · -- whoever abandoned has stored a result as well
        have hvig := hcon.1 (hcon.2 haband)
        have hgan : (resultado j).1 = MultPlayer.ganador j := by
          rw [hs.unico.ganador _ hvig, hsent.ganador]
          rfl
        exact concuerda_of_abre hjug.uid (vigente_settle _ hvig) hgan
          hquieta.move.client.2 habre
    · exact fun _ j hj => (hs.acuerdo.server j hj).mono vigente_settle

/-- The condition respects the result as an attribute of the database. -/
theorem respects_of_firme {p : Partida} {s s' : Estado} {a : Paso}
    (hs : p.Acordada s) (hpan : DePantalla a) (hok : p.Firme s a)
    (hstep : programa.step s a = some s') : (decidida p).Respects s a := by
  cases a with
  | event l e =>
      obtain ⟨r, hreact, rfl⟩ := Program.step_event hstep
      refine .of_issue nofun ?_
      intro x hx w hw
      rw [Program.issues_event hreact] at hw
      intro y hy
      exact (prosigue_event hs hpan hok hreact).igual w hw y hy x
        (mem_vigentes.mpr ⟨(decidida_of.mp hx).2,
          Or.inl (decidida_of.mp hx).1⟩)
  | arrive l =>
      obtain ⟨w, ws, hbox, rfl⟩ := Program.step_arrive hstep
      obtain ⟨j, hj, -⟩ := hs.asientos.server
      have hw : w ∈ s.outbox l := mem_of_eq_cons hbox
      have happ : p.marca (s.server.aplicar w).1 = _ :=
        marca_aplicar (hs.asientos.outbox l w hw) hj
      refine (Attribute.respects_arrive hbox).mpr fun x hnone hsome => ?_
      have hnone' := decidida_of_none.mp hnone
      obtain ⟨hx, hne⟩ := decidida_of.mp hsome
      have hx' : p.marca (s.server.aplicar w).1 = x := hx
      rw [happ] at hx'
      cases hesc : escrito w with
      | none =>
          rw [hesc] at hx'
          rw [← hx'] at hne
          exact absurd hnone' hne
      | some y =>
          rw [hesc] at hx'
          obtain rfl : y = x := hx'
          have hflight := hok.2.2 l rfl hnone' ⟨y, by rw [hbox]; exact hesc, hne⟩
          rw [hbox, List.tail_cons] at hflight
          have hvig : ∀ k, ∀ v ∈ s.outbox k, ∀ z ∈ escrito v, z.1 ≠ "" →
              z ∈ p.vigentes s :=
            fun k v hv z hz hgan => mem_vigentes.mpr ⟨hgan, Or.inr ⟨k, v, hv, hz⟩⟩
          intro k v hv z hz
          have hgan := forall_receive_outbox.mpr hflight k v hv z hz
          exact hs.unico.unico z
            (hvig k v (Program.mem_receive_outbox hbox hv) z hz hgan) y
            (hvig l w hw y hesc hne)
  | confirm l => exact .of_quiet nofun (issues_confirm s l)
  | deliver l => exact .of_quiet nofun (issues_deliver s l)
  | skip l => exact .of_quiet nofun rfl

/-- A write that stores nothing unknown leaves nothing unknown. -/
theorem conocida_aplicar {p : Partida} {l : Lado} {db : BaseDatos}
    {w : Escritura} {k : String × ℤ × ℤ → Prop} (hw : p.Permitida l w)
    (hset : ∀ j, entera w = some j → Conocida k j)
    (hrec : ∀ id uid, w ≠ .rechazar id uid)
    (hdb : ∀ j, db.jugadas p.jugadaId = some j → Conocida k j) :
    ∀ j, (db.aplicar w).1.jugadas p.jugadaId = some j → Conocida k j := by
  intro j hj
  rw [hw.aplicar db] at hj
  cases w with
  | addJugada id i => exact hw.elim
  | setJugada id i => exact hset j hj
  | reclamar id i => exact hset j hj
  | unirse id uid =>
      obtain ⟨i, hdoc, rfl⟩ := Option.map_eq_some_iff.mp hj
      exact hdb i hdoc
  | rechazar id uid => exact absurd rfl (hrec id uid)
  | deleteJugada id => exact hw.elim
  | setUser uid u => exact hdb j hj

/-- One step under the condition keeps the agreement and what is decided. -/
theorem Acordada.step {p : Partida} {s s' : Estado} {a : Paso}
    (hs : p.Acordada s) (hpan : DePantalla a) (hok : p.Firme s a)
    (hstep : programa.step s a = some s') :
    p.Acordada s' ∧ (decidida p).Lasts s s' := by
  have hasientos := asientos_step hs.asientos hstep
  have hinflight : ∀ s : Estado, (Partida.asientos p).Holds s →
      ∀ l, ∀ w ∈ s.outbox l, (decidida p).ok w :=
    fun s hs l w hw => ⟨l, hs.outbox l w hw⟩
  obtain ⟨hsafe, hlasts⟩ := Attribute.Safe.step hinflight hs.asientos hs.safe
    (respects_of_firme hs hpan hok hstep) hstep
  refine ⟨?_, hlasts⟩
  cases a with
  | event l e =>
      obtain ⟨r, hreact, rfl⟩ := Program.step_event hstep
      exact (prosigue_event hs hpan hok hreact).acordada hs hasientos
  | arrive l =>
      obtain ⟨w, ws, hbox, rfl⟩ := Program.step_arrive hstep
      have hvig : ∀ x, x ∈ p.vigentes (programa.receive s l w ws) ↔
          x ∈ p.vigentes s := fun x =>
        mem_vigentes_receive hs.asientos hs.safe hbox
      have hw : w ∈ s.outbox l := mem_of_eq_cons hbox
      refine ⟨hasientos, hsafe, ⟨?_, ?_⟩, ?_⟩
      · intro x hx y hy
        exact hs.unico.unico x ((hvig x).mp hx) y ((hvig y).mp hy)
      · exact fun x hx => hs.unico.ganador x ((hvig x).mp hx)
      · have hdoc : ∀ j, (s.server.aplicar w).1.jugadas p.jugadaId = some j →
            Conocida (fun x => x ∈ p.vigentes s) j :=
          conocida_aplicar (hs.asientos.outbox l w hw)
            (hs.acuerdo.outbox l w hw).1 (hs.acuerdo.outbox l w hw).2
            hs.acuerdo.server
        have hknow : (Partida.acuerdo p).know (programa.receive s l w ws) =
            (Partida.acuerdo p).know s := funext fun x => propext (hvig x)
        refine ⟨?_, ?_, fun _ _ _ => trivial, ?_, ?_⟩
        · rw [hknow]
          exact hdoc
        · intro k v hv
          rw [hknow]
          exact hs.acuerdo.outbox k v (Program.mem_receive_outbox hbox hv)
        · intro k d hd
          rw [hknow]
          rcases Program.mem_receive_inbox hd with hold | ⟨-, rfl⟩
          · exact hs.acuerdo.inbox k d hold
          · exact hdoc
        · intro k
          rw [hknow]
          exact hs.acuerdo.clients k
  | confirm l =>
      obtain ⟨w, b, rest, hacks, rfl⟩ := Program.step_confirm hstep
      have hrest : rest ⊆ s.acks l := subset_of_eq_cons hacks
      have hsin : p.Acordada
          { s with acks := Function.update s.acks l rest } :=
        ⟨hs.asientos.confirmed hrest rfl, hs.safe,
          ⟨hs.unico.unico, hs.unico.ganador⟩,
          hs.acuerdo.confirmed hrest rfl⟩
      have hquieta : p.Prosigue
          { s with acks := Function.update s.acks l rest } l
          (s.client l, []) :=
        prosigue_quieta hsin ⟨rfl, rfl, rfl, rfl, rfl, rfl, rfl⟩
      exact hquieta.acordada hsin hasientos
  | deliver l =>
      obtain ⟨d, rest, hbox, rfl⟩ := Program.step_deliver hstep
      have hd : d ∈ s.inbox l := mem_of_eq_cons hbox
      have hsin := hs.sin_aviso hbox
      have hr : p.Prosigue
          { s with inbox := Function.update s.inbox l rest } l
          (MultPlayer.snapshot (s.outbox l) d (s.client l)) :=
        prosigue_deliver hsin (hs.asientos.inbox l d hd)
          (hs.acuerdo.inbox l d hd)
      exact hr.acordada hsin hasientos
  | skip l =>
      obtain ⟨d, rest, hbox, rfl⟩ := Program.step_skip hstep
      exact hs.sin_aviso hbox

/-! ## The result of a match -/

/-- Once the server shows a winner, neither winner nor scores change. -/
def ResultadoFirme (p : Partida) (s : Estado) (acts : List Paso) : Prop :=
  ∀ xs ys zs s₁ s₂, acts = xs ++ (ys ++ zs) →
    Runs.run programa.step s xs = some s₁ →
    Runs.run programa.step s₁ ys = some s₂ →
    (p.marca s₁.server).1 ≠ "" → p.marca s₂.server = p.marca s₁.server

/-- One of the players is told that he has won, and nobody else is; if the
server shows a winner, it is that player. -/
def DialogosDeAcuerdo (p : Partida) (s : Estado) : Prop :=
  ∃ l, (∀ k, ∀ d ∈ (s.client k).dialogos,
      (∃ nombre, d.tvGanador = .Ganaste nombre) ↔ k = l) ∧
    ((p.marca s.server).1 ≠ "" → (p.marca s.server).1 = p.uid l)

/-- The match has been neither won nor abandoned. -/
def SinResultado (p : Partida) (db : BaseDatos) : Prop :=
  ∃ j, db.jugadas p.jugadaId = some j ∧ p.EnMesa j ∧
    j.ganadorID = "" ∧ j.abandonoID = ""

theorem acordada_inicial {p : Partida} {db : BaseDatos}
    (h : p.SinResultado db) : p.Acordada (p.inicial db) := by
  obtain ⟨j, hj, hmesa, hgan, haband⟩ := h
  have hmarca : (p.marca db).1 = "" := by
    simp [marca, hj, resultado, hgan]
  have hvig : ∀ x, x ∉ p.vigentes (p.inicial db) := by
    intro x hx
    obtain ⟨hne, hserver | ⟨l, w, hw, -⟩⟩ := mem_vigentes.mp hx
    · rw [← hserver] at hne
      exact hne hmarca
    · cases hw
  refine ⟨asientos_inicial ⟨j, hj, hmesa⟩, fun _ _ _ w hw => ?_, ⟨?_, ?_⟩,
    ⟨?_, ?_, fun _ _ _ => trivial, ?_, ?_⟩⟩
  · cases hw
  · exact fun x hx => absurd hx (hvig x)
  · exact fun x hx => absurd hx (hvig x)
  · intro k hk
    have hk' : db.jugadas p.jugadaId = some k := hk
    rw [hj] at hk'
    cases hk'
    exact ⟨fun hne => absurd hgan hne, fun hne => absurd haband hne⟩
  · intro l w hw
    cases hw
  · intro l d hd
    cases hd
  · exact fun l => ⟨nofun, nofun⟩

theorem Acordada.dialogos {p : Partida} {s : Estado} (h : p.Acordada s) :
    p.DialogosDeAcuerdo s := by
  by_cases hvig : ∃ x, x ∈ p.vigentes s
  · obtain ⟨x, hx⟩ := hvig
    have hwin : ∃ l, x.1 = p.uid l := by
      rw [h.unico.ganador x hx]
      unfold ganadorDe
      split
      · exact ⟨.uno, rfl⟩
      · exact ⟨.dos, rfl⟩
    obtain ⟨l, hl⟩ := hwin
    refine ⟨l, ?_, ?_⟩
    · intro k d hd
      obtain ⟨y, hy, hcon⟩ := (h.acuerdo.clients k).2 d hd
      have hxy : y = x := h.unico.unico y hy x hx
      refine Iff.trans hcon ?_
      rw [hxy, hl]
      constructor
      · exact fun heq => (p.uid_injective heq).symm
      · exact fun heq => congrArg p.uid heq.symm
    · intro hne
      have hmarca := mem_vigentes.mpr ⟨hne, Or.inl rfl⟩
      rw [h.unico.unico _ hmarca x hx, hl]
  · refine ⟨.uno, ?_, ?_⟩
    · intro k d hd
      obtain ⟨y, hy, -⟩ := (h.acuerdo.clients k).2 d hd
      exact absurd ⟨y, hy⟩ hvig
    · exact fun hne => absurd ⟨_, mem_vigentes.mpr ⟨hne, Or.inl rfl⟩⟩ hvig

theorem acordada_run {p : Partida} {s : Estado} {acts : List Paso}
    (hs : p.Acordada s) (hpan : ∀ a ∈ acts, DePantalla a)
    (hok : Runs.Along programa.step p.Firme s acts) :
    (∀ t, Runs.run programa.step s acts = some t → p.Acordada t) ∧
      Runs.Along programa.step
        (fun s a => ∀ s', programa.step s a = some s' →
          (decidida p).Lasts s s') s acts := by
  induction acts generalizing s with
  | nil =>
      refine ⟨fun t ht => ?_, trivial⟩
      cases ht
      exact hs
  | cons a acts ih =>
      have hhead : DePantalla a := hpan a List.mem_cons_self
      have htail : ∀ b ∈ acts, DePantalla b :=
        fun b hb => hpan b (List.mem_cons_of_mem a hb)
      refine ⟨?_, ?_, ?_⟩
      · intro t ht
        obtain ⟨s', hstep, hrest⟩ := Runs.run_cons_eq_some ht
        have hs' := (hs.step hhead hok.1 hstep).1
        exact (ih hs' htail (hok.2 s' hstep)).1 t hrest
      · exact fun s' hstep => (hs.step hhead hok.1 hstep).2
      · intro s' hstep
        have hs' := (hs.step hhead hok.1 hstep).1
        exact (ih hs' htail (hok.2 s' hstep)).2

/-- The result of a match that is played under the condition is final, and in
every state the dialogs agree on it. -/
theorem resultado_firme {p : Partida} {db : BaseDatos} {acts : List Paso}
    {s : Estado} (hdb : p.SinResultado db) (hpan : ∀ a ∈ acts, DePantalla a)
    (hrun : Runs.run programa.step (p.inicial db) acts = some s)
    (hok : Runs.Along programa.step p.Firme (p.inicial db) acts) :
    p.ResultadoFirme (p.inicial db) acts ∧ p.DialogosDeAcuerdo s := by
  obtain ⟨hacordada, hlasts⟩ := acordada_run (acordada_inicial hdb) hpan hok
  refine ⟨?_, (hacordada s hrun).dialogos⟩
  have hstretch := (Runs.along_iff_stretch programa.step
    (decidida p).lasts_refl (fun _ _ _ => Attribute.Lasts.trans _) _ _).mp
      hlasts
  intro xs ys zs s₁ s₂ hacts hxs hys hne
  have h := hstretch xs ys zs s₁ s₂ hacts hxs hys _
    (decidida_of.mpr ⟨rfl, hne⟩)
  exact (decidida_of.mp h.1).1

/-- Player `a` scores, both countdowns expire on the same scores. -/
def partidaLimpia : List Paso :=
  entra .uno ++ entra .dos ++
    [.event .uno (.mult (.clic .IvjUno (sale 0))), .arrive .uno, .skip .uno,
      .deliver .dos, .event .uno (.mult (.onFinish 0)), .arrive .uno,
      .arrive .uno, .deliver .dos, .event .dos (.mult (.onFinish 0)),
      .arrive .dos, .arrive .dos]

theorem resultado_firme_deAyB :
    ∃ s, Runs.run programa.step (deAyB.inicial baseAyB) partidaLimpia =
        some s ∧
      deAyB.ResultadoFirme (deAyB.inicial baseAyB) partidaLimpia ∧
      deAyB.DialogosDeAcuerdo s := by
  obtain ⟨s, hrun⟩ := Option.isSome_iff_exists.mp
    (show (Runs.run programa.step (deAyB.inicial baseAyB)
      partidaLimpia).isSome = true by decide)
  exact ⟨s, hrun, resultado_firme
    ⟨_, rfl, ⟨rfl, Or.inr rfl⟩, rfl, rfl⟩ (by decide) hrun (by decide)⟩

/-- The countdown of `a` expires; `b`, who has not been told, scores. -/
def toqueTrasElFinal : List Paso :=
  [.event .uno (.mult (.onFinish 0)), .arrive .uno, .arrive .uno,
    .event .dos (.mult (.clic .IvjDos (sale 0))), .arrive .dos]

/-- The tap of `b` takes the winner away again. -/
theorem resultado_perdido :
    ¬deAyB.ResultadoFirme (deAyB.inicial baseAyB)
      (entra .uno ++ entra .dos ++ toqueTrasElFinal) := by
  intro h
  have hfirst : (Runs.run programa.step (deAyB.inicial baseAyB)
      (entra .uno ++ entra .dos ++ toqueTrasElFinal.take 3)).map
        (fun s => deAyB.marca s.server) = some ("b", 0, 0) := by decide
  have hlast : (Runs.run programa.step (deAyB.inicial baseAyB)
      (entra .uno ++ entra .dos ++ toqueTrasElFinal)).map
        (fun s => deAyB.marca s.server) = some ("", 0, 1) := by decide
  obtain ⟨s₁, hs₁, hres₁⟩ := Option.map_eq_some_iff.mp hfirst
  obtain ⟨s₂, hs₂, hres₂⟩ := Option.map_eq_some_iff.mp hlast
  have hsplit : entra .uno ++ entra .dos ++ toqueTrasElFinal =
      (entra .uno ++ entra .dos ++ toqueTrasElFinal.take 3) ++
        (toqueTrasElFinal.drop 3 ++ []) := rfl
  rw [hsplit, Runs.run_append, hs₁] at hs₂
  have hsame := h _ _ _ s₁ s₂ hsplit hs₁ hs₂ (by rw [hres₁]; decide)
  rw [hres₁, hres₂] at hsame
  revert hsame
  decide

end Tocate.Partida
