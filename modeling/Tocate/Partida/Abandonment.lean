import Tocate.Partida.System

/-!
# Abandonment

`abandonoID` is one field of a document that both screens rewrite whole.  A
write that stores the match from a copy in which the field is still empty takes
an abandonment away again.
-/

namespace Tocate.Partida

open Cloud

/-- The abandonment that the database shows for the match. -/
def abandono (p : Partida) (db : BaseDatos) : String :=
  match db.jugadas p.jugadaId with
  | none => ""
  | some j => j.abandonoID

/-- What a write stores as `abandonoID`, if it stores anything there. -/
def anotado : Escritura → Option String
  | .setJugada _ j | .reclamar _ j | .addJugada _ j => some j.abandonoID
  | .rechazar _ uid => some uid
  | .unirse _ _ | .deleteJugada _ | .setUser _ _ => none

theorem abandono_aplicar {p : Partida} {l : Lado} {db : BaseDatos}
    {w : Escritura} {j : Jugada} (hw : p.Permitida l w)
    (hj : db.jugadas p.jugadaId = some j) :
    p.abandono (db.aplicar w).1 = (anotado w).getD (p.abandono db) := by
  unfold abandono
  rw [hw.aplicar db, hj]
  cases w with
  | addJugada id i => exact hw.elim
  | deleteJugada id => exact hw.elim
  | _ => rfl

theorem existe_of_abandono {p : Partida} {db : BaseDatos}
    (h : p.abandono db ≠ "") : ∃ j, db.jugadas p.jugadaId = some j := by
  unfold abandono at h
  split at h
  · exact absurd rfl h
  next j hj => exact ⟨j, hj⟩

/-- "Somebody has abandoned", as an attribute of the database. -/
def abandonada (p : Partida) : Attribute programa Unit where
  ok := fun w => ∃ l, p.Permitida l w
  of := fun db => if p.abandono db = "" then none else some ()
  keeps := fun _ w => anotado w ≠ some ""
  kept_iff := by
    rintro db w ⟨⟩ ⟨l, hw⟩ hdb
    have hab : p.abandono db ≠ "" := by
      intro hnone
      simp [hnone] at hdb
    obtain ⟨j, hj⟩ := existe_of_abandono hab
    have happ : p.abandono (programa.apply db w).1 = _ :=
      abandono_aplicar hw hj
    rw [happ]
    cases hw : anotado w with
    | none => simpa using hab
    | some x => simp

theorem abandonada_of {p : Partida} {db : BaseDatos} :
    (abandonada p).of db = some () ↔ p.abandono db ≠ "" := by
  simp [abandonada]

theorem abandonada_of_none {p : Partida} {db : BaseDatos} :
    (abandonada p).of db = none ↔ p.abandono db = "" := by
  simp [abandonada]

/-- From any state of the run on in which the server shows an abandonment it
goes on showing one, and so does every snapshot that is sent later. -/
def AbandonoDuradero (p : Partida) (s : Estado) (acts : List Paso) : Prop :=
  ∀ xs ys zs s₁ s₂, acts = xs ++ (ys ++ zs) →
    Runs.run programa.step s xs = some s₁ →
    Runs.run programa.step s₁ ys = some s₂ →
    p.abandono s₁.server ≠ "" →
      p.abandono s₂.server ≠ "" ∧
        ∀ l, ∀ db ∈ s₂.inbox l, db ∈ s₁.inbox l ∨ p.abandono db ≠ ""

/-- The events that store the local copy without adding an abandonment. -/
def Reescribe : Suceso → Bool
  | .mult (.clic _ _) | .mult (.onFinish _) | .mult .onStop => true
  | _ => false

/-- Once the server shows an abandonment, a screen whose copy does not show it
makes no more taps and does not end the match; and when the first abandonment
arrives, no whole match without it is in flight any more. -/
structure Oportuna (p : Partida) (s : Estado) (a : Paso) : Prop where
  event : ∀ x ∈ a.event?, Reescribe x.2 = true → p.abandono s.server ≠ "" →
    ∀ j ∈ (s.client x.1).jugada, j.abandonoID ≠ ""
  arrive : ∀ l ∈ a.arrive?, p.abandono s.server = "" →
    ∀ w ∈ (s.outbox l).head?, (anotado w).getD "" ≠ "" →
      ∀ v ∈ (s.outbox l).tail ++ s.outbox l.otro, anotado v ≠ some ""

instance (p : Partida) (s : Estado) (a : Paso) : Decidable (p.Oportuna s a) :=
  decidable_of_iff (_ ∧ _)
    ⟨fun h => ⟨h.1, h.2⟩, fun h => ⟨h.event, h.arrive⟩⟩

/-- What an event stores as abandonment comes from the local copy, and is new
only on a back press. -/
theorem react_conserva {p : Partida} {l : Lado} {db vista : BaseDatos}
    {m m' : MultPlayer} {e : Suceso} {ws : List Escritura}
    (hm : p.Jugador l m) (hab : p.abandono db ≠ "")
    (h : react db vista m e = some (m', ws)) :
    (∀ w ∈ ws, anotado w ≠ some "") ↔
      (Reescribe e = true → ∀ j ∈ m.jugada, j.abandonoID ≠ "") := by
  have huid : m.uid ≠ "" := hm.uid ▸ p.uid_ne_vacio l
  rcases react_efecto h with ⟨imagen, aleatorio, j, rfl, ht⟩ |
    ⟨e', j, rfl, hgame, hj, ht⟩ | ⟨e', rfl, hquieta, hq⟩ |
    ⟨rfl, j, w, hj, -, rfl, hw⟩
  · simp [ht.writes, ht.antes, anotado, MultPlayer.tocada, Reescribe]
  · have hws : (∀ w ∈ ws, anotado w ≠ some "") ↔ j.abandonoID ≠ "" := by
      rcases ht.credito with ⟨-, hws, -⟩ | ⟨u, -, hws, -⟩
      · simp [hws, anotado, MultPlayer.coronada]
      · simp [hws, anotado, MultPlayer.coronada]
    rw [hws]
    obtain ⟨t, rfl⟩ | rfl | rfl := MultPlayer.Suceso.esGameover_cases hgame
    · have hcopia : m.jugada = some j := hj
      simp [hcopia, Reescribe]
    · have hcopia : m.jugada = some j := hj
      simp [hcopia, Reescribe]
    · obtain ⟨k, -, rfl⟩ := Option.map_eq_some_iff.mp hj
      simp [Reescribe, huid]
  · rw [hq.writes]
    rcases hquieta with hcall | hnone
    · have hno : Reescribe (.mult e') = false := by
        cases e' <;> first | rfl | cases hcall
      simp [hno]
    · simp [hnone]
  · have hno : Reescribe e = false := by
      rcases hw with ⟨rfl, -⟩ | ⟨rfl, -⟩ | ⟨rfl, -⟩ <;> rfl
    have hjab : j.abandonoID ≠ "" := by
      rw [hm.jugadaId] at hj
      simpa [abandono, hj] using hab
    rcases hw with ⟨-, rfl⟩ | ⟨-, -, rfl⟩ | ⟨-, rfl⟩
    · simp [anotado, hno]
    · simp [anotado, hno, hjab]
    · simp [anotado, hno, huid]

/-- A write that arrives and takes the first abandonment to the server. -/
theorem respects_arrive_iff {p : Partida} {s : Estado} {l : Lado}
    {w : Escritura} {ws : List Escritura} (hs : (asientos p).Holds s)
    (hbox : s.outbox l = w :: ws) :
    (abandonada p).Respects s (.arrive l) ↔ p.Oportuna s (.arrive l) := by
  obtain ⟨j, hj, -⟩ := hs.server
  have happ := abandono_aplicar (hs.outbox l w (mem_of_eq_cons hbox)) hj
  rw [Attribute.respects_arrive hbox]
  simp only [forall_receive_outbox]
  constructor
  · refine fun h => ⟨nofun, ?_⟩
    rintro k ⟨⟩ hnone v hv hne
    rw [hbox, List.head?_cons, Option.mem_some_iff] at hv
    subst hv
    have hafter : p.abandono (s.server.aplicar w).1 ≠ "" := by
      rw [happ, hnone]
      exact hne
    rw [hbox, List.tail_cons]
    exact h () (abandonada_of_none.mpr hnone) (abandonada_of.mpr hafter)
  · rintro h ⟨⟩ hnone hsome
    rw [abandonada_of_none] at hnone
    have hafter : p.abandono (s.server.aplicar w).1 ≠ "" :=
      abandonada_of.mp hsome
    rw [happ, hnone] at hafter
    have hflight := h.arrive l rfl hnone w (by rw [hbox]; rfl) hafter
    rw [hbox, List.tail_cons] at hflight
    exact hflight

/-- The condition on a step says what the attribute asks of it. -/
theorem respects_iff_oportuna {p : Partida} {s s' : Estado} {a : Paso}
    (hs : (asientos p).Holds s) (hstep : programa.step s a = some s') :
    (abandonada p).Respects s a ↔ p.Oportuna s a := by
  cases a with
  | event l e =>
      obtain ⟨⟨m', ws⟩, hreact, rfl⟩ := Program.step_event hstep
      have hconserva : p.abandono s.server ≠ "" →
          ((∀ w ∈ programa.issues s (.event l e), anotado w ≠ some "") ↔
            (Reescribe e = true → ∀ j ∈ (s.client l).jugada,
              j.abandonoID ≠ "")) := by
        intro hab
        rw [issues_event hreact]
        exact react_conserva (hs.clients l).1 hab hreact
      constructor
      · refine fun h => ⟨?_, nofun⟩
        rintro x ⟨⟩ hre hab
        have hkeep := h.issue () (abandonada_of.mpr hab)
        exact (hconserva hab).mp hkeep hre
      · intro h
        refine .of_issue nofun ?_
        rintro ⟨⟩ hab
        rw [abandonada_of] at hab
        exact (hconserva hab).mpr fun hre => h.event (l, e) rfl hre hab
  | arrive l =>
      obtain ⟨w, ws, hbox, rfl⟩ := Program.step_arrive hstep
      exact respects_arrive_iff hs hbox
  | confirm l =>
      exact ⟨fun _ => ⟨nofun, nofun⟩,
        fun _ => .of_quiet nofun (issues_confirm s l)⟩
  | deliver l =>
      exact ⟨fun _ => ⟨nofun, nofun⟩,
        fun _ => .of_quiet nofun (issues_deliver s l)⟩
  | skip l => exact ⟨fun _ => ⟨nofun, nofun⟩, fun _ => .of_quiet nofun rfl⟩

theorem duradero_iff {p : Partida} {s : Estado} {acts : List Paso} :
    p.AbandonoDuradero s acts ↔
      Runs.Along programa.step
        (fun s a => ∀ s', programa.step s a = some s' →
          (abandonada p).Lasts s s') s acts := by
  have hlasts : ∀ s₁ s₂ : Estado, (abandonada p).Lasts s₁ s₂ ↔
      (p.abandono s₁.server ≠ "" →
        p.abandono s₂.server ≠ "" ∧
          ∀ l, ∀ db ∈ s₂.inbox l,
            db ∈ s₁.inbox l ∨ p.abandono db ≠ "") := by
    intro s₁ s₂
    constructor
    · intro h hab
      obtain ⟨hserver, hin⟩ := h () (abandonada_of.mpr hab)
      refine ⟨abandonada_of.mp hserver, fun l db hdb => ?_⟩
      exact (hin l db hdb).imp (fun h => h) abandonada_of.mp
    · rintro h ⟨⟩ hab
      obtain ⟨hserver, hin⟩ := h (abandonada_of.mp hab)
      refine ⟨abandonada_of.mpr hserver, fun l db hdb => ?_⟩
      exact (hin l db hdb).imp (fun h => h) abandonada_of.mpr
  have hstretch := Runs.along_iff_stretch programa.step
    (abandonada p).lasts_refl
    (fun _ _ _ => Attribute.Lasts.trans _) s acts
  rw [hstretch]
  simp only [hlasts]
  rfl

/-- An abandonment is never lost in a run whose steps meet the condition; and
in a run after which no write is in flight it is never lost only then. -/
theorem abandono_duradero {p : Partida} {db : BaseDatos} {acts : List Paso}
    {s : Estado} (hdb : p.Abierta db)
    (hrun : Runs.run programa.step (p.inicial db) acts = some s) :
    (Runs.Along programa.step p.Oportuna (p.inicial db) acts →
      p.AbandonoDuradero (p.inicial db) acts) ∧
    ((∀ l, s.outbox l = []) → p.AbandonoDuradero (p.inicial db) acts →
      Runs.Along programa.step p.Oportuna (p.inicial db) acts) := by
  have hinit := asientos_inicial hdb
  have hok : ∀ s, (asientos p).Holds s → ∀ l, ∀ w ∈ s.outbox l,
      (abandonada p).ok w := fun s hs l w hw => ⟨l, hs.outbox l w hw⟩
  have hkept : ∀ s a s', (asientos p).Holds s →
      programa.step s a = some s' → (asientos p).Holds s' :=
    fun _ _ _ hs hstep => asientos_step hs hstep
  have hcongr := Runs.Along.congr hkept
    (fun _ _ _ hs hstep => respects_iff_oportuna hs hstep) hinit hrun
  have hsafe : (abandonada p).Safe (p.inicial db) :=
    fun _ _ _ w hw => absurd hw List.not_mem_nil
  rw [← hcongr, duradero_iff]
  constructor
  · exact Attribute.lasts_of_respects hok hkept hinit hsafe
  · exact fun hend => Attribute.respects_of_lasts hok hkept hinit hrun hend

/-- Both play, `b` goes back and `a` is told: nothing is lost. -/
theorem abandono_duradero_deAyB :
    ∃ s, Runs.run programa.step (deAyB.inicial baseAyB)
        (entra .uno ++ entra .dos ++ [.event .dos (.mult .onBackPressed),
          .arrive .dos, .arrive .dos, .deliver .uno]) = some s ∧
      deAyB.AbandonoDuradero (deAyB.inicial baseAyB)
        (entra .uno ++ entra .dos ++ [.event .dos (.mult .onBackPressed),
          .arrive .dos, .arrive .dos, .deliver .uno]) := by
  obtain ⟨s, hrun⟩ := Option.isSome_iff_exists.mp
    (show (Runs.run programa.step (deAyB.inicial baseAyB)
      (entra .uno ++ entra .dos ++ [.event .dos (.mult .onBackPressed),
        .arrive .dos, .arrive .dos, .deliver .uno])).isSome = true by decide)
  exact ⟨s, hrun, (abandono_duradero ⟨_, rfl, rfl, Or.inr rfl⟩ hrun).1
    (by decide)⟩

/-- Player `b` goes back; `a`, not told yet, taps once more. -/
def toqueTardio : List Paso :=
  [.event .dos (.mult .onBackPressed), .arrive .dos, .arrive .dos,
    .event .uno (.mult (.clic .IvjUno (sale 0))), .arrive .uno]

/-- The tap of `a` takes the abandonment of `b` away. -/
theorem abandono_perdido :
    ¬deAyB.AbandonoDuradero (deAyB.inicial baseAyB)
      (entra .uno ++ entra .dos ++ toqueTardio) := by
  intro h
  have hfirst : (Runs.run programa.step (deAyB.inicial baseAyB)
      (entra .uno ++ entra .dos ++ toqueTardio.take 3)).map
        (fun s => deAyB.abandono s.server) = some "b" := by decide
  have hlast : (Runs.run programa.step (deAyB.inicial baseAyB)
      (entra .uno ++ entra .dos ++ toqueTardio)).map
        (fun s => deAyB.abandono s.server) = some "" := by decide
  obtain ⟨s₁, hs₁, hab₁⟩ := Option.map_eq_some_iff.mp hfirst
  obtain ⟨s₂, hs₂, hab₂⟩ := Option.map_eq_some_iff.mp hlast
  have hsplit : entra .uno ++ entra .dos ++ toqueTardio =
      (entra .uno ++ entra .dos ++ toqueTardio.take 3) ++
        (toqueTardio.drop 3 ++ []) := rfl
  rw [hsplit, Runs.run_append, hs₁] at hs₂
  refine (h _ _ _ s₁ s₂ hsplit hs₁ hs₂ ?_).1 hab₂
  rw [hab₁]
  decide

end Tocate.Partida
