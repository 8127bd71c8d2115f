import Tocate.InicioSesion.Accounts

/-!
# How often the menu is started

One `MainActivity` and who is signed in.  The listener is called once after it
has been registered and again on each sign-in, until it is removed; the Facebook
SDK may know something else at every event.
-/

namespace Tocate.InicioSesion

/-- A signed-in user is found only by an instance that has not been finished,
and no reply to `updateUI` starts the menu. -/
def Clase.Unica (terminada : Bool) (c : Clase) : Prop :=
  (c = .entra → terminada = false) ∧ c.respondido? = none

instance (terminada : Bool) (c : Clase) : Decidable (c.Unica terminada) :=
  inferInstanceAs (Decidable ((_ → _) ∧ _))

/-- An instance, with what has come of it: how often it has started the menu,
and whether `onStart` or the listener has found a user signed in. -/
structure Vida where
  main : MainActivity := {}
  currentUser : Option String
  /-- Calls of the listener that are due. -/
  citas : ℕ := 0
  lanzadas : ℕ := 0
  sabe : Bool := false
deriving DecidableEq, Repr

namespace Vida

inductive Suceso where
  | main (fb : Facebook) (e : MainActivity.Suceso)
  | sesion (user : Option String)
deriving DecidableEq, Repr

/-- The calls of the listener that are due after an event. -/
def citasTras (v : Vida) : MainActivity.Suceso → ℕ
  | .onStart => v.citas + 1
  | .onStop => 0
  | .onAuthStateChanged => v.citas - 1
  | .getOnSuccess _ | .getOnFailure _ _ | .setOnSuccess _ => v.citas

def step (v : Vida) : Suceso → Option Vida
  | .main fb e =>
      if e = .onAuthStateChanged ∧ v.citas = 0 then none
      else
        (v.main.atiende fb v.currentUser e).map fun t =>
          { main := t.state
            currentUser := v.currentUser
            citas := v.citasTras e
            lanzadas := v.lanzadas + t.writes.count .lanza
            sabe := v.sabe || MainActivity.clase v.currentUser e = .entra }
  | .sesion user =>
      some
        { v with
          currentUser := user
          citas := if user ≠ none ∧ v.main.escucha then v.citas + 1
            else v.citas }

/-- One menu once a user has been found, and none before. -/
def UnMenu (v : Vida) : Prop := v.lanzadas = if v.sabe then 1 else 0

/-- The event of the screen. -/
def Suceso.main? : Suceso → Option MainActivity.Suceso
  | .main _ e => some e
  | _ => none

/-- The event is in order. -/
def Unica (v : Vida) (a : Suceso) : Prop :=
  ∀ e ∈ a.main?,
    (MainActivity.clase v.currentUser e).Unica v.main.terminada

instance (v : Vida) (a : Suceso) : Decidable (v.Unica a) :=
  inferInstanceAs (Decidable (∀ e ∈ a.main?, Clase.Unica _ _))

end Vida

/-! ## What an event of the screen does -/

section Screen

variable {fb : Facebook} {user : Option String} {m : MainActivity}
  {e : MainActivity.Suceso} {t : MainActivity.Turno}

theorem updateUI_terminada :
    (m.updateUI fb user).state.terminada = true ↔
      m.terminada = true ∨ .lanza ∈ (m.updateUI fb user).writes := by
  unfold MainActivity.updateUI
  split
  · exact (or_iff_left List.not_mem_nil).symm
  · split
    · exact iff_of_true rfl (Or.inr List.mem_cons_self)
    · exact iff_of_true rfl (Or.inr List.mem_cons_self)

/-- The screen is finished where the menu is started. -/
theorem atiende_terminada (h : m.atiende fb user e = some t) :
    t.state.terminada = true ↔ m.terminada = true ∨ .lanza ∈ t.writes := by
  cases e with
  | onStart =>
      obtain ⟨-, ⟨⟩⟩ := Option.ite_none_right_eq_some.mp h
      exact updateUI_terminada
  | onStop =>
      obtain ⟨-, ⟨⟩⟩ := Option.ite_none_right_eq_some.mp h
      exact (or_iff_left List.not_mem_nil).symm
  | onAuthStateChanged =>
      obtain ⟨-, ⟨⟩⟩ := Option.ite_none_right_eq_some.mp h
      cases user with
      | none => exact (or_iff_left List.not_mem_nil).symm
      | some x => exact updateUI_terminada
  | getOnSuccess uid =>
      obtain ⟨-, ⟨⟩⟩ := Option.ite_none_right_eq_some.mp h
      exact iff_of_true rfl (Or.inr List.mem_cons_self)
  | getOnFailure uid aceptado =>
      obtain ⟨-, ⟨⟩⟩ := Option.ite_none_right_eq_some.mp h
      refine (or_iff_left fun hmem => ?_).symm
      exact absurd (List.mem_singleton.mp hmem) nofun
  | setOnSuccess uid =>
      obtain ⟨-, ⟨⟩⟩ := Option.ite_none_right_eq_some.mp h
      exact iff_of_true rfl (Or.inr List.mem_cons_self)

/-- A record is stored only on a reply that was due. -/
theorem deuda_of_crea {uid : String} {aceptado : Bool}
    (h : m.atiende fb user e = some t)
    (hclase : MainActivity.clase user e = .crea uid aceptado) :
    uid ∈ m.deudas := by
  cases e with
  | getOnFailure uid' aceptado' =>
      obtain ⟨hmem, -⟩ := Option.ite_none_right_eq_some.mp h
      cases hclase
      exact List.mem_append_left _ hmem
  | onStart | onAuthStateChanged =>
      cases user with
      | none => cases hclase
      | some x => cases hclase
  | onStop => cases hclase
  | getOnSuccess uid' => cases hclase
  | setOnSuccess uid' => cases hclase

/-- New replies become due only about a user who has been found. -/
theorem deudas_subset (h : m.atiende fb user e = some t)
    (hentra : MainActivity.clase user e ≠ .entra) :
    t.state.deudas ⊆ m.deudas := by
  have htrata := trata_main h
  cases hclase : MainActivity.clase user e with
  | entra => exact absurd hclase hentra
  | calla =>
      rw [hclase] at htrata
      exact htrata.2
  | responde uid =>
      rw [hclase] at htrata
      exact htrata.2.2
  | crea uid aceptado =>
      rw [hclase] at htrata
      obtain ⟨-, -, hsub⟩ := htrata
      cases aceptado with
      | false => exact hsub
      | true =>
          exact List.Subset.trans hsub (List.cons_subset.mpr
            ⟨deuda_of_crea h hclase, List.Subset.refl _⟩)

end Screen

namespace Vida

/-- The screen is finished exactly once it has started the menu, and replies
are due only about users that have been found. -/
structure Llevada (v : Vida) : Prop where
  terminada : v.main.terminada = true ↔ 0 < v.lanzadas
  deudas : ∀ uid ∈ v.main.deudas, v.sabe = true

theorem llevada_inicial (user : Option String) :
    Llevada { currentUser := user } :=
  ⟨iff_of_false nofun (Nat.lt_irrefl 0), List.forall_mem_nil _⟩

variable {v v' : Vida} {a : Suceso}

/-- What one step makes of the ledger, by what the event means. -/
theorem step_eq_some (h : v.step a = some v') :
    (∃ fb e t, a = .main fb e ∧ v.main.atiende fb v.currentUser e = some t ∧
      v'.main = t.state ∧ v'.lanzadas = v.lanzadas + t.writes.count .lanza ∧
      v'.sabe = (v.sabe || MainActivity.clase v.currentUser e = .entra)) ∨
    (∃ user, a = .sesion user ∧ v'.main = v.main ∧
      v'.lanzadas = v.lanzadas ∧ v'.sabe = v.sabe) := by
  cases a with
  | sesion user =>
      cases h
      exact Or.inr ⟨user, rfl, rfl, rfl, rfl⟩
  | main fb e =>
      obtain ⟨-, h⟩ := Option.ite_none_left_eq_some.mp h
      obtain ⟨t, ht, rfl⟩ := Option.map_eq_some_iff.mp h
      exact Or.inl ⟨fb, e, t, rfl, ht, rfl, rfl, rfl⟩

theorem Llevada.step (hv : Llevada v) (h : v.step a = some v') :
    Llevada v' := by
  obtain ⟨fb, e, t, rfl, ht, hmain, hlanzadas, hsabe⟩ |
    ⟨user, rfl, hmain, hlanzadas, hsabe⟩ := step_eq_some h
  · constructor
    · rw [hmain, hlanzadas, atiende_terminada ht, hv.terminada,
        ← List.count_pos_iff, Nat.add_pos_iff_pos_or_pos]
    · intro uid huid
      rw [hmain] at huid
      rw [hsabe]
      by_cases hentra : MainActivity.clase v.currentUser e = .entra
      · rw [decide_eq_true hentra, Bool.or_true]
      · rw [hv.deudas uid (deudas_subset ht hentra huid), Bool.true_or]
  · constructor
    · rw [hmain, hlanzadas]
      exact hv.terminada
    · rw [hmain, hsabe]
      exact hv.deudas

/-- A step keeps the property exactly when it is in order. -/
theorem Llevada.unMenu_iff (hv : Llevada v) (hmenu : v.UnMenu)
    (h : v.step a = some v') : v'.UnMenu ↔ v.Unica a := by
  obtain ⟨fb, e, t, rfl, ht, hmain, hlanzadas, hsabe⟩ |
    ⟨user, rfl, hmain, hlanzadas, hsabe⟩ := step_eq_some h
  · have htrata := trata_main ht
    have hfin := hv.terminada
    unfold UnMenu at hmenu ⊢
    simp only [Unica, Suceso.main?, Option.mem_def, Option.some.injEq,
      forall_eq', Clase.Unica, hlanzadas, hsabe]
    cases hclase : MainActivity.clase v.currentUser e with
    | calla =>
        rw [hclase] at htrata
        rw [htrata.1]
        exact iff_of_true (by simpa using hmenu) ⟨nofun, rfl⟩
    | crea uid aceptado =>
        rw [hclase] at htrata
        obtain ⟨name, hwrites, -⟩ := htrata
        rw [hwrites]
        exact iff_of_true (by simpa using hmenu) ⟨nofun, rfl⟩
    | entra =>
        rw [hclase] at htrata
        obtain ⟨x, -, hwrites, -⟩ := htrata
        rw [hwrites]
        have hno : v.main.terminada = false ↔ v.lanzadas = 0 := by
          rw [← Bool.not_eq_true, hfin]
          exact Nat.pos_iff_ne_zero.not_left
        simpa [Clase.respondido?] using hno.symm
    | responde uid =>
        rw [hclase] at htrata
        have hsabido := hv.deudas uid htrata.1
        rw [htrata.2.1]
        rw [hsabido] at hmenu ⊢
        exact iff_of_false (by simp [hmenu]) fun h => by cases h.2
  · unfold UnMenu
    rw [hlanzadas, hsabe]
    exact iff_of_true hmenu nofun

/-- In every run of an instance, the menu has been started once in every state
reached after a signed-in user has been found, and never in the others, exactly
when every event is in order. -/
theorem un_menu_iff (user : Option String) {acts : List Suceso}
    (hrun : Runs.run step { currentUser := user } acts = some v) :
    (∀ xs ys u, acts = xs ++ ys →
        Runs.run step { currentUser := user } xs = some u → u.UnMenu) ↔
      Runs.Along step Unica { currentUser := user } acts := by
  have hmenu : UnMenu { currentUser := user } := rfl
  apply Runs.reached_iff_along_of_step ?_ (llevada_inicial user) hmenu hrun
  intro u a u' hu hmenu hstep
  exact ⟨hu.unMenu_iff hmenu hstep, fun _ => hu.step hstep⟩

/-- `ana` is signed in, without Facebook: the instance stops before the listener
is called. -/
def parada : List Suceso :=
  [.main ⟨false, none⟩ .onStart, .main ⟨false, none⟩ .onStop]

theorem un_menu_parada :
    Runs.Along step Unica { currentUser := some "ana" } parada ∧
      ∀ xs ys u, parada = xs ++ ys →
        Runs.run step { currentUser := some "ana" } xs = some u → u.UnMenu := by
  have hunica : Runs.Along step Unica { currentUser := some "ana" } parada := by
    decide
  have hrun : Runs.run step { currentUser := some "ana" } parada =
      some
        { main := { terminada := true }
          currentUser := some "ana"
          lanzadas := 1
          sabe := true } := rfl
  exact ⟨hunica, (un_menu_iff (some "ana") hrun).mpr hunica⟩

/-- The first call of the listener starts the menu again. -/
theorem dos_menus :
    ∃ v, Runs.run step { currentUser := some "ana" }
        [.main ⟨false, none⟩ .onStart,
          .main ⟨false, none⟩ .onAuthStateChanged] = some v ∧
      v.lanzadas = 2 ∧ ¬v.UnMenu := by
  refine ⟨_, rfl, rfl, fun h => ?_⟩
  have hdos : 2 = 1 := h
  exact absurd hdos (by decide)

end Vida

end Tocate.InicioSesion
