import Tocate.Lib.LifeCycle
import Tocate.FindGame.Facts
import Tocate.Transision.Activity
import Tocate.Users.Additive
import Mathlib.Data.Fintype.Basic

/-!
# Who is shown as online

The screens of one signed-in user's app, any number of instances of each: menus,
solo games, matches and searches.  The menu sets `online` as it comes and goes;
a game that is over stores the whole record, with the field as it was when the
record was loaded, or with `on`.

The app is at rest when none of its screens is started.  The system calls
`onStart` together with `onCreate` or `onRestart`, so a screen between the two is
not at rest.  Writes are applied at once, as in the sessions of one device.
-/

namespace Tocate

open LifeCycle

namespace Transision

def Suceso.callback : Suceso → Option Callback
  | .onCreate => some .onCreate
  | .onStart => some .onStart
  | .onResume => some .onResume
  | .onRestart => some .onRestart
  | .onPause => some .onPause
  | .onStop => some .onStop
  | .onBackPressed | .onFinishSalir | .onEvent _ _ | .aceptar _ | .cancelar _
  | .onFinishDial _ | .abreNotificacion => none

/-- What the event makes of `online`. -/
def presencia (m : Transision) : Suceso → Option String
  | .onCreate | .onStart | .onResume | .onRestart => some "on"
  | .onStop => some "off"
  | .onBackPressed => if m.contSalir = 0 then none else some "off"
  | .onPause | .onFinishSalir | .onEvent _ _ | .aceptar _ | .cancelar _
  | .onFinishDial _ | .abreNotificacion => none

/-- An uncaught exception takes the app down. -/
def cierra (t : Turno) : Transision × List Efecto :=
  ({ t.state with caida := t.state.caida || t.failed }, t.writes)

def react (m : Transision) (e : Suceso) : Option (Transision × List Efecto) :=
  if m.caida then none else (atiende m e).map cierra

end Transision

def GameActivity.Suceso.callback : GameActivity.Suceso → Option Callback
  | .onCreate => some .onCreate
  | .onResume => some .onResume
  | .onPause => some .onPause
  | .onStop => some .onStop
  | .prepara _ | .user | .clicFotoPerfil _ | .clicIvjDos _ | .onFinish _
  | .onBackPressed | .reiniciar _ _ | .ranking _ | .onFinishDial _ => none

namespace Presencia

variable {ν ι κ ρ : Type*}

structure Estado (ν ι κ ρ : Type*) where
  db : BaseDatos
  menu : ν → Transision
  faseMenu : ν → Phase
  solo : ι → GameActivity
  faseSolo : ι → Phase
  mult : κ → MultPlayer
  busca : ρ → FindGame
  /-- How many other screens of the app are started. -/
  otras : ℕ

inductive Paso (ν ι κ ρ : Type*) where
  | menu (n : ν) (e : Transision.Suceso)
  | solo (i : ι) (e : GameActivity.Suceso)
  /-- `onStart` or `onRestart` of solo game `i`, where it does nothing. -/
  | ciclo (i : ι) (c : Callback)
  | mult (k : κ) (e : MultPlayer.Suceso)
  /-- The listener of match `k` is given the games of `d`. -/
  | entrega (k : κ) (d : BaseDatos)
  | busca (r : ρ) (e : FindGame.Suceso)
  /-- Search `r` is told the outcome of a write. -/
  | ack (r : ρ) (w : Escritura) (ok : Bool)
  /-- Others change anything but the user's record. -/
  | mundo (d : BaseDatos)
  /-- Another screen is started, such as the ranking. -/
  | abre
  | cierra

/-- No screen has been opened. -/
def apagada (uid : String) (juego : κ → String) (db : BaseDatos) :
    Estado ν ι κ ρ where
  db := db
  menu := fun _ => Transision.nueva uid
  faseMenu := fun _ => .launched
  solo := fun _ => GameActivity.nueva uid
  faseSolo := fun _ => .launched
  mult := fun k => MultPlayer.creada uid (juego k)
  busca := fun _ => FindGame.nueva uid
  otras := 0

/-- What the menu does to the database. -/
def efectua (uid : String) (db : BaseDatos) : Efecto → BaseDatos
  | .actulizarDBuser onLine => Sesiones.ponOnline db uid onLine
  | .cancelarJugada jugadaId => (db.aplicar (.rechazar jugadaId uid)).1
  | .pinvDirecta _ | .notify _ | .finishAffinity => db

section Paso

variable [DecidableEq ν] [DecidableEq ι] [DecidableEq κ] [DecidableEq ρ]

def paso (uid : String) (s : Estado ν ι κ ρ) :
    Paso ν ι κ ρ → Option (Estado ν ι κ ρ)
  | .menu n e =>
      ((s.faseMenu n).after e.callback).bind fun fase =>
        (Transision.react (s.menu n) e).map fun r =>
          { s with
            db := r.2.foldl (efectua uid) s.db
            menu := Function.update s.menu n r.1
            faseMenu := Function.update s.faseMenu n fase }
  | .solo i e =>
      ((s.faseSolo i).after e.callback).bind fun fase =>
        (GameActivity.react s.db (s.solo i) e).map fun r =>
          { s with
            db := Sesiones.escribe s.db r.2
            solo := Function.update s.solo i r.1
            faseSolo := Function.update s.faseSolo i fase }
  | .ciclo i c =>
      if c = .onStart ∨ c = .onRestart then
        ((s.faseSolo i).next c).map fun fase =>
          { s with faseSolo := Function.update s.faseSolo i fase }
      else none
  | .mult k e =>
      (MultPlayer.react s.db (s.mult k) e).map fun r =>
        { s with
          db := Sesiones.escribe s.db r.2
          mult := Function.update s.mult k r.1 }
  | .entrega k d =>
      if (s.mult k).escucha then
        let r := MultPlayer.snapshot [] d (s.mult k)
        some { s with
          db := Sesiones.escribe s.db r.2
          mult := Function.update s.mult k r.1 }
      else none
  | .busca r e =>
      (FindGame.react s.db (s.busca r) e).map fun q =>
        { s with
          db := Sesiones.escribe s.db q.2
          busca := Function.update s.busca r q.1 }
  | .ack r w ok =>
      some { s with busca := Function.update s.busca r ((s.busca r).ack w ok) }
  | .mundo d =>
      if d.users uid = s.db.users uid then some { s with db := d } else none
  | .abre => some { s with otras := s.otras + 1 }
  | .cierra =>
      if 0 < s.otras then some { s with otras := s.otras - 1 } else none

end Paso

/-! ## The app at rest -/

/-- `users/{uid}.online`. -/
def online (db : BaseDatos) (uid : String) : Option String :=
  (db.users uid).bind User.Online

structure EnReposo (s : Estado ν ι κ ρ) : Prop where
  menu : ∀ n, (s.faseMenu n).up = false
  solo : ∀ i, (s.faseSolo i).up = false
  mult : ∀ k, (s.mult k).iniciada = false
  busca : ∀ r, (s.busca r).iniciada = false
  otras : s.otras = 0

/-- A user whose app is at rest is not shown as online. -/
def Veraz (uid : String) (s : Estado ν ι κ ρ) : Prop :=
  EnReposo s → online s.db uid ≠ some "on"

/-- A credit that stores `on`: every credit of a match, and that of a solo game
whose record has been loaded while the user was online. -/
def enciende (s : Estado ν ι κ ρ) : Paso ν ι κ ρ → Bool
  | .solo i e => e.esGameover && (s.solo i).isParche &&
      (s.solo i).userjUno.any fun l => decide (l.user.Online = some "on")
  | .mult k e => ((s.mult k).credito e).isSome
  | _ => false

/-- The menu sets `off`, or a solo game stores another value than `on`. -/
def apaga (s : Estado ν ι κ ρ) : Paso ν ι κ ρ → Bool
  | .menu n e => decide ((s.menu n).presencia e = some "off")
  | .solo i e => e.esGameover && (s.solo i).isParche &&
      (s.solo i).userjUno.any fun l => decide (l.user.Online ≠ some "on")
  | _ => false

/-- Whether a credit has stored `on` that nothing has put out since. -/
def anotaDeuda (s : Estado ν ι κ ρ) (a : Paso ν ι κ ρ) (deuda : Bool) : Bool :=
  enciende s a || (deuda && !apaga s a)

/-- The record may say `on` from the beginning. -/
def inicio (uid : String) (juego : κ → String) (db : BaseDatos) :
    Estado ν ι κ ρ × Bool :=
  (apagada uid juego db, decide (online db uid = some "on"))

section Decidable

variable [Fintype ν] [Fintype ι] [Fintype κ] [Fintype ρ]

instance (s : Estado ν ι κ ρ) : Decidable (EnReposo s) :=
  decidable_of_iff
    ((∀ n, (s.faseMenu n).up = false) ∧ (∀ i, (s.faseSolo i).up = false) ∧
      (∀ k, (s.mult k).iniciada = false) ∧
      (∀ r, (s.busca r).iniciada = false) ∧ s.otras = 0)
    ⟨fun h => ⟨h.1, h.2.1, h.2.2.1, h.2.2.2.1, h.2.2.2.2⟩,
      fun h => ⟨h.menu, h.solo, h.mult, h.busca, h.otras⟩⟩

instance (uid : String) (s : Estado ν ι κ ρ) : Decidable (Veraz uid s) :=
  inferInstanceAs (Decidable (EnReposo s → online s.db uid ≠ some "on"))

end Decidable

/-! ## What is stored -/

section Stored

variable {uid : String} {db db' : BaseDatos}

theorem online_congr (h : db'.users uid = db.users uid) :
    online db' uid = online db uid := by
  rw [online, online, h]

theorem online_of_some {u : User} (h : db.users uid = some u) :
    online db uid = u.Online := by
  rw [online, h, Option.bind_some]

/-- `update("online", o)` succeeds where there is a record. -/
theorem online_ponOnline (db : BaseDatos) (uid o : String) :
    online (Sesiones.ponOnline db uid o) uid = (db.users uid).map fun _ => o := by
  unfold Sesiones.ponOnline
  split
  next hno =>
    rw [online, hno]
    rfl
  next u hu =>
    rw [online_of_some (db.conUser_self uid _), hu]
    rfl

/-- The effects that leave `online` alone. -/
theorem online_efectua {e : Efecto} (he : ∀ o, e ≠ .actulizarDBuser o) :
    online (efectua uid db e) uid = online db uid := by
  cases e with
  | actulizarDBuser o => exact absurd rfl (he o)
  | cancelarJugada g =>
      exact online_congr (db.aplicar_users_of_ne fun l => by simp)
  | pinvDirecta g => rfl
  | notify g => rfl
  | finishAffinity => rfl

theorem online_foldl {es : List Efecto} (hes : ∀ o, .actulizarDBuser o ∉ es) :
    online (es.foldl (efectua uid) db) uid = online db uid := by
  induction es generalizing db with
  | nil => rfl
  | cons e es ih =>
      have he : ∀ o, e ≠ .actulizarDBuser o := by
        rintro o rfl
        exact hes o List.mem_cons_self
      rw [List.foldl_cons, ih fun o hmem => hes o (List.mem_cons_of_mem e hmem)]
      exact online_efectua he

end Stored

end Presencia

/-! ## What the menu writes -/

namespace Transision

open Cloud

/-- `online` is left alone. -/
def Callada (t : Turno) : Prop := ∀ onLine, .actulizarDBuser onLine ∉ t.writes

theorem callada_of_nil {t : Turno} (h : t.writes = []) : Callada t := by
  intro onLine hmem
  rw [h] at hmem
  cases hmem

theorem callada_haz {e : Efecto} (h : ∀ onLine, e ≠ .actulizarDBuser onLine)
    (m : Transision) : Callada (haz e m) :=
  fun onLine hmem => h onLine (List.mem_singleton.mp hmem).symm

theorem Callada.andThen {t : Turno} {f : Transision → Turno} (h : Callada t)
    (hf : ∀ m, Callada (f m)) : Callada (t.andThen f) := by
  intro onLine hmem
  unfold Outcome.andThen at hmem
  split at hmem
  · exact h onLine hmem
  · rcases List.mem_append.mp hmem with hold | hnew
    · exact h onLine hold
    · exact hf _ onLine hnew

theorem callada_cancela (m : Transision) :
    Callada (cancelaCountDownTimerDial m) := by
  unfold cancelaCountDownTimerDial
  split
  · exact callada_of_nil rfl
  · exact callada_of_nil rfl

theorem callada_cancelarJugada (m : Transision) : Callada (cancelarJugada m) := by
  unfold cancelarJugada
  split
  · exact callada_of_nil rfl
  · exact callada_haz (by simp) m

theorem callada_siNotifica {f g : Transision → Turno} (hf : ∀ m, Callada (f m))
    (hg : ∀ m, Callada (g m)) (m : Transision) : Callada (siNotifica f g m) := by
  unfold siNotifica
  split
  · exact callada_of_nil rfl
  · exact hf m
  · exact hg m

theorem callada_onEvent (value : Option (List (String × Jugada)))
    (m : Transision) : Callada (onEvent value m) := by
  unfold onEvent
  split
  · exact callada_of_nil rfl
  · dsimp only
    split
    · exact callada_haz (by simp) _
    · exact callada_of_nil rfl

variable {m : Transision} {e : Suceso} {t : Turno}

/-- The events that make nothing of `online`. -/
theorem callada_of_presencia (ht : atiende m e = some t)
    (h : m.presencia e = none) : Callada t := by
  have hsigue : ∀ m : Transision, Callada (sigue m) :=
    fun _ => callada_of_nil rfl
  have hdismiss : ∀ d (m : Transision), Callada (dismiss d m) :=
    fun _ _ => callada_of_nil rfl
  cases e with
  | onCreate => cases h
  | onStart => cases h
  | onResume => cases h
  | onRestart => cases h
  | onStop => cases h
  | onPause =>
      obtain ⟨-, ⟨⟩⟩ := Option.ite_none_right_eq_some.mp ht
      exact callada_of_nil rfl
  | onBackPressed =>
      obtain ⟨-, ⟨⟩⟩ := Option.ite_none_right_eq_some.mp ht
      have hcero : m.contSalir = 0 := by
        by_contra hno
        simp [presencia, hno] at h
      unfold onBackPressed
      rw [if_pos hcero]
      exact (hsigue _).andThen fun _ => hsigue _
  | onFinishSalir =>
      obtain ⟨-, ⟨⟩⟩ := Option.ite_none_right_eq_some.mp ht
      exact hsigue _
  | onEvent n value =>
      obtain ⟨-, ⟨⟩⟩ := Option.ite_none_right_eq_some.mp ht
      exact callada_onEvent value m
  | aceptar d =>
      obtain ⟨-, ⟨⟩⟩ := Option.ite_none_right_eq_some.mp ht
      exact ((callada_siNotifica (fun _ => callada_haz (by simp) _) hsigue
        m).andThen callada_cancela).andThen (hdismiss d)
  | cancelar d =>
      obtain ⟨-, ⟨⟩⟩ := Option.ite_none_right_eq_some.mp ht
      exact ((callada_siNotifica callada_cancelarJugada hsigue m).andThen
        callada_cancela).andThen (hdismiss d)
  | onFinishDial d =>
      obtain ⟨-, ⟨⟩⟩ := Option.ite_none_right_eq_some.mp ht
      exact (callada_siNotifica callada_cancelarJugada hsigue _).andThen
        (hdismiss d)
  | abreNotificacion =>
      obtain ⟨id, -, rfl⟩ := Option.map_eq_some_iff.mp ht
      exact callada_haz (by simp) _

/-- The events that set `online` do so first. -/
theorem writes_of_presencia {onLine : String} (ht : atiende m e = some t)
    (h : m.presencia e = some onLine) :
    ∃ es, t.writes = .actulizarDBuser onLine :: es ∧
      ∀ o, .actulizarDBuser o ∉ es := by
  cases e with
  | onCreate =>
      obtain ⟨-, ⟨⟩⟩ := Option.ite_none_left_eq_some.mp ht
      cases h
      exact ⟨[], rfl, fun _ => List.not_mem_nil⟩
  | onStart =>
      obtain ⟨-, ⟨⟩⟩ := Option.ite_none_right_eq_some.mp ht
      cases h
      refine ⟨[], ?_, fun _ => List.not_mem_nil⟩
      simp only [onStart, actulizarDBuser, haz, Outcome.andThen_mk_false]
      split
      · rfl
      · rfl
  | onResume =>
      obtain ⟨-, ⟨⟩⟩ := Option.ite_none_right_eq_some.mp ht
      cases h
      exact ⟨[], rfl, fun _ => List.not_mem_nil⟩
  | onRestart =>
      obtain ⟨-, ⟨⟩⟩ := Option.ite_none_right_eq_some.mp ht
      cases h
      exact ⟨[], rfl, fun _ => List.not_mem_nil⟩
  | onStop =>
      obtain ⟨-, ⟨⟩⟩ := Option.ite_none_right_eq_some.mp ht
      cases h
      exact ⟨[], rfl, fun _ => List.not_mem_nil⟩
  | onBackPressed =>
      obtain ⟨-, ⟨⟩⟩ := Option.ite_none_right_eq_some.mp ht
      simp only [presencia] at h
      split at h
      · cases h
      next hno =>
        cases h
        refine ⟨[.finishAffinity], ?_, by simp⟩
        simp [onBackPressed, hno, actulizarDBuser, haz, sigue]
  | onPause => cases h
  | onFinishSalir => cases h
  | onEvent n value => cases h
  | aceptar d => cases h
  | cancelar d => cases h
  | onFinishDial d => cases h
  | abreNotificacion => cases h

/-- The menu sets `on` as it comes up. -/
theorem presencia_cases {onLine : String} (h : m.presencia e = some onLine) :
    onLine = "off" ∨
      (onLine = "on" ∧ ∃ c, e.callback = some c ∧ c ≠ .onStop) := by
  cases e with
  | onCreate => exact Or.inr ⟨(Option.some.inj h).symm, _, rfl, nofun⟩
  | onStart => exact Or.inr ⟨(Option.some.inj h).symm, _, rfl, nofun⟩
  | onResume => exact Or.inr ⟨(Option.some.inj h).symm, _, rfl, nofun⟩
  | onRestart => exact Or.inr ⟨(Option.some.inj h).symm, _, rfl, nofun⟩
  | onStop => exact Or.inl (Option.some.inj h).symm
  | onBackPressed =>
      simp only [presencia] at h
      split at h
      · cases h
      · exact Or.inl (Option.some.inj h).symm
  | onPause => cases h
  | onFinishSalir => cases h
  | onEvent n value => cases h
  | aceptar d => cases h
  | cancelar d => cases h
  | onFinishDial d => cases h
  | abreNotificacion => cases h

/-- What an event of the menu makes of the stored field. -/
theorem online_menu {r : Transision × List Efecto} (h : react m e = some r)
    (db : BaseDatos) (uid : String) :
    Presencia.online (r.2.foldl (Presencia.efectua uid) db) uid =
      match m.presencia e with
      | none => Presencia.online db uid
      | some onLine => (db.users uid).map fun _ => onLine := by
  obtain ⟨-, hmap⟩ := Option.ite_none_left_eq_some.mp h
  obtain ⟨t, ht, rfl⟩ := Option.map_eq_some_iff.mp hmap
  split
  next hno => exact Presencia.online_foldl (callada_of_presencia ht hno)
  next onLine hsi =>
    obtain ⟨es, hes, hcalla⟩ := writes_of_presencia ht hsi
    simp only [cierra, hes, List.foldl_cons]
    rw [Presencia.online_foldl hcalla]
    exact Presencia.online_ponOnline db uid onLine

end Transision

/-! ## What the other screens write -/

namespace FindGame

/-- A search stores no record. -/
theorem react_sinUser {db : BaseDatos} {f f' : FindGame} {e : Suceso}
    {ws : List Escritura} (h : react db f e = some (f', ws)) (x : String)
    (l : Leido) : .setUser x l ∉ ws := by
  obtain ⟨-, t, ht, hcierra⟩ := react_eq_some h
  obtain ⟨-, rfl⟩ := Prod.mk.inj hcierra
  intro hmem
  nomatch (atiende_writes ht).1 _ hmem

end FindGame

namespace Presencia

variable [DecidableEq ν] [DecidableEq ι] [DecidableEq κ] [DecidableEq ρ]
  {uid : String} {s s' : Estado ν ι κ ρ} {deuda : Bool}

/-- What is stored is what the last writer has left: a credit, or a menu that
is not at rest. -/
structure Alumbra (uid : String) (s : Estado ν ι κ ρ) (deuda : Bool) :
    Prop where
  solo : ∀ i, (s.solo i).uid = uid
  mult : ∀ k, (s.mult k).uid = uid
  debe : deuda = true → online s.db uid = some "on"
  menu : online s.db uid = some "on" →
    deuda = true ∨ ∃ n, (s.faseMenu n).up = true

omit [DecidableEq ν] [DecidableEq ι] [DecidableEq κ] [DecidableEq ρ] in
/-- A step that stores nothing at the user's record and leaves the menus as they
are. -/
theorem Alumbra.igual (h : Alumbra uid s deuda)
    (hsolo : ∀ i, (s'.solo i).uid = (s.solo i).uid)
    (hmult : ∀ k, (s'.mult k).uid = (s.mult k).uid)
    (honline : online s'.db uid = online s.db uid)
    (hfase : s'.faseMenu = s.faseMenu) : Alumbra uid s' deuda where
  solo := fun i => (hsolo i).trans (h.solo i)
  mult := fun k => (hmult k).trans (h.mult k)
  debe := fun hdeuda => honline.trans (h.debe hdeuda)
  menu := by
    rw [honline, hfase]
    exact h.menu

/-- A screen keeps its user as another one of its kind moves. -/
theorem uid_update {α β : Type*} [DecidableEq α] (uidDe : β → String)
    {f : α → β} {i : α} {x : β} (h : uidDe x = uidDe (f i)) (k : α) :
    uidDe (Function.update f i x k) = uidDe (f k) := by
  by_cases hk : k = i
  · subst hk
    rw [Function.update_self]
    exact h
  · rw [Function.update_of_ne hk]

theorem Alumbra.atiendeMenu (h : Alumbra uid s deuda) {n : ν}
    {e : Transision.Suceso}
    (hstep : paso uid s (.menu n e) = some s') :
    Alumbra uid s' (anotaDeuda s (.menu n e) deuda) := by
  obtain ⟨fase, hfase, hstep⟩ := Option.bind_eq_some_iff.mp hstep
  obtain ⟨r, hr, rfl⟩ := Option.map_eq_some_iff.mp hstep
  have honline := Transision.online_menu hr s.db uid
  have hdeuda : anotaDeuda s (.menu n e) deuda =
      (deuda && !decide ((s.menu n).presencia e = some "off")) := rfl
  have hup : e.callback ≠ some .onStop →
      (∃ n, (s.faseMenu n).up = true) →
      ∃ m, (Function.update s.faseMenu n fase m).up = true := by
    rintro hno ⟨m, hm⟩
    refine ⟨m, ?_⟩
    by_cases hmn : m = n
    · subst hmn
      rw [Function.update_self]
      exact Phase.up_after hfase hno hm
    · rw [Function.update_of_ne hmn]
      exact hm
  have hself : fase.up = true →
      ∃ m, (Function.update s.faseMenu n fase m).up = true := by
    intro hfase'
    exact ⟨n, by rw [Function.update_self]; exact hfase'⟩
  cases hp : (s.menu n).presencia e with
  | none =>
      rw [hp] at honline hdeuda
      have hno : e.callback ≠ some .onStop := by
        rintro hcall
        cases e <;> cases hcall
        cases hp
      rw [hdeuda]
      simp only [reduceCtorEq, decide_false, Bool.not_false, Bool.and_true]
      refine ⟨h.solo, h.mult, fun hd => honline.trans (h.debe hd), fun hon => ?_⟩
      exact (h.menu (honline.symm.trans hon)).imp_right (hup hno)
  | some onLine =>
      rw [hp] at honline hdeuda
      rcases Transision.presencia_cases hp with rfl | ⟨rfl, c, hcall, hc⟩
      · rw [hdeuda]
        simp only [decide_true, Bool.not_true, Bool.and_false]
        refine ⟨h.solo, h.mult, nofun, fun hon => ?_⟩
        have hon' := honline.symm.trans hon
        simp at hon'
      · rw [hdeuda]
        rw [hcall] at hfase
        have hsube : fase.up = true := by
          rw [Phase.up_next hfase]
          exact decide_eq_true hc
        refine ⟨h.solo, h.mult, fun hd => honline.trans ?_,
          fun _ => Or.inr (hself hsube)⟩
        rw [Bool.and_eq_true] at hd
        obtain ⟨u, hu, -⟩ := Option.bind_eq_some_iff.mp (h.debe hd.1)
        rw [hu]
        rfl

/-- A solo game that credits leaves the field as it was loaded. -/
theorem Alumbra.atiendeSolo (h : Alumbra uid s deuda) {i : ι}
    {e : GameActivity.Suceso} (hstep : paso uid s (.solo i e) = some s') :
    Alumbra uid s' (anotaDeuda s (.solo i e) deuda) := by
  obtain ⟨fase, -, hstep⟩ := Option.bind_eq_some_iff.mp hstep
  obtain ⟨⟨m, ws⟩, hr, rfl⟩ := Option.map_eq_some_iff.mp hstep
  have hcalla : ws = [] → m.uid = (s.solo i).uid →
      (e.esGameover = false ∨ (s.solo i).isParche = false ∨
        (s.solo i).userjUno = none) →
      Alumbra uid
        { s with
          db := Sesiones.escribe s.db ws
          solo := Function.update s.solo i m
          faseSolo := Function.update s.faseSolo i fase }
        (anotaDeuda s (.solo i e) deuda) := by
    rintro rfl huid hno
    have hdeuda : anotaDeuda s (.solo i e) deuda = deuda := by
      rcases hno with hno | hno | hno <;>
        simp [anotaDeuda, enciende, apaga, hno]
    rw [hdeuda]
    exact h.igual (uid_update GameActivity.uid huid) (fun _ => rfl) rfl rfl
  rcases GameActivity.react_cases hr with ⟨he, hparche, l, ht⟩ | ⟨rfl, hlee⟩ |
    ⟨-, hno, hq⟩
  · have honline : online (Sesiones.escribe s.db ws) uid = l.user.Online := by
      rw [ht.writes, h.solo i]
      have hstored := online_of_some (s.db.aplicar_setUser uid
        (GameActivity.acreditada l (s.solo i).puntosUid))
      exact hstored
    have hdeuda : anotaDeuda s (.solo i e) deuda =
        decide (l.user.Online = some "on") := by
      by_cases hon : l.user.Online = some "on" <;>
        simp [anotaDeuda, enciende, apaga, he, hparche, ht.antes, hon]
    rw [hdeuda]
    refine ⟨fun k => (uid_update GameActivity.uid ht.uid k).trans (h.solo k),
      h.mult, fun hd => ?_, fun hon => Or.inl ?_⟩
    · exact honline.trans (of_decide_eq_true hd)
    · exact decide_eq_true (honline.symm.trans hon)
  · exact hcalla hlee.writes hlee.uid (Or.inl rfl)
  · exact hcalla hq.writes hq.uid hno

/-- A match that credits stores `on`. -/
theorem Alumbra.atiendeMult (h : Alumbra uid s deuda) {k : κ}
    {e : MultPlayer.Suceso} (hstep : paso uid s (.mult k e) = some s') :
    Alumbra uid s' (anotaDeuda s (.mult k e) deuda) := by
  obtain ⟨⟨m, ws⟩, hr, rfl⟩ := Option.map_eq_some_iff.mp hstep
  have hcalla : (∀ x l, .setUser x l ∉ ws) → m.uid = (s.mult k).uid →
      (s.mult k).credito e = none →
      Alumbra uid
        { s with
          db := Sesiones.escribe s.db ws
          mult := Function.update s.mult k m }
        (anotaDeuda s (.mult k e) deuda) := by
    intro hws huid hno
    have hdeuda : anotaDeuda s (.mult k e) deuda = deuda := by
      simp [anotaDeuda, enciende, apaga, hno]
    rw [hdeuda]
    exact h.igual (fun _ => rfl) (uid_update MultPlayer.uid huid)
      (online_congr (Sesiones.escribe_users hws s.db uid)) rfl
  rcases MultPlayer.registro_cases hr with ⟨p, l, hcred, ht⟩ |
    ⟨hcred, p, x, -, hlee⟩ | ⟨hcred, -, hq⟩
  · obtain ⟨j, hj⟩ := ht.writes
    have honline : online (Sesiones.escribe s.db ws) uid = some "on" := by
      rw [hj, h.mult k]
      exact online_of_some (BaseDatos.aplicar_setUser _ uid _)
    have hdeuda : anotaDeuda s (.mult k e) deuda = true := by
      simp [anotaDeuda, enciende, hcred]
    rw [hdeuda]
    exact ⟨h.solo, fun k' => (uid_update MultPlayer.uid ht.uid k').trans
      (h.mult k'), fun _ => honline, fun _ => Or.inl rfl⟩
  · refine hcalla ?_ hlee.uid hcred
    rw [hlee.writes]
    exact fun _ _ => List.not_mem_nil
  · exact hcalla hq.writes hq.uid hcred

theorem Alumbra.step (h : Alumbra uid s deuda) {a : Paso ν ι κ ρ}
    (hstep : paso uid s a = some s') : Alumbra uid s' (anotaDeuda s a deuda) := by
  have hsame : ∀ {a : Paso ν ι κ ρ}, enciende s a = false → apaga s a = false →
      anotaDeuda s a deuda = deuda := by
    intro a hen hap
    simp [anotaDeuda, hen, hap]
  cases a with
  | menu n e => exact h.atiendeMenu hstep
  | solo i e => exact h.atiendeSolo hstep
  | mult k e => exact h.atiendeMult hstep
  | ciclo i c =>
      rw [hsame rfl rfl]
      obtain ⟨-, hstep⟩ := Option.ite_none_right_eq_some.mp hstep
      obtain ⟨fase, -, rfl⟩ := Option.map_eq_some_iff.mp hstep
      exact h.igual (fun _ => rfl) (fun _ => rfl) rfl rfl
  | entrega k d =>
      rw [hsame rfl rfl]
      obtain ⟨-, ⟨⟩⟩ := Option.ite_none_right_eq_some.mp hstep
      have hsnap : (MultPlayer.snapshot [] d (s.mult k)).1.uid =
          (s.mult k).uid ∧ (MultPlayer.snapshot [] d (s.mult k)).2 = [] := by
        rcases MultPlayer.snapshot_cases [] d (s.mult k) with
          hpasa | ⟨-, -, j, m, -, hm, hrec⟩
        · rw [hpasa]
          exact ⟨rfl, rfl⟩
        · rw [hm]
          exact ⟨hrec.afin.uid, rfl⟩
      refine h.igual (fun _ => rfl) (uid_update MultPlayer.uid hsnap.1) ?_ rfl
      dsimp only
      rw [hsnap.2]
      rfl
  | busca r e =>
      rw [hsame rfl rfl]
      obtain ⟨⟨f, ws⟩, hr, rfl⟩ := Option.map_eq_some_iff.mp hstep
      exact h.igual (fun _ => rfl) (fun _ => rfl)
        (online_congr (Sesiones.escribe_users (FindGame.react_sinUser hr) s.db
          uid)) rfl
  | ack r w ok =>
      rw [hsame rfl rfl]
      cases hstep
      exact h.igual (fun _ => rfl) (fun _ => rfl) rfl rfl
  | mundo d =>
      rw [hsame rfl rfl]
      obtain ⟨hd, ⟨⟩⟩ := Option.ite_none_right_eq_some.mp hstep
      exact h.igual (fun _ => rfl) (fun _ => rfl) (online_congr hd) rfl
  | abre =>
      rw [hsame rfl rfl]
      cases hstep
      exact h.igual (fun _ => rfl) (fun _ => rfl) rfl rfl
  | cierra =>
      rw [hsame rfl rfl]
      obtain ⟨-, ⟨⟩⟩ := Option.ite_none_right_eq_some.mp hstep
      exact h.igual (fun _ => rfl) (fun _ => rfl) rfl rfl

/-! ## Runs -/

omit [DecidableEq ν] [DecidableEq ι] [DecidableEq κ] [DecidableEq ρ] in
theorem alumbra_inicio (uid : String) (juego : κ → String) (db : BaseDatos) :
    Alumbra uid (inicio uid juego db : Estado ν ι κ ρ × Bool).1
      (inicio uid juego db : Estado ν ι κ ρ × Bool).2 where
  solo := fun _ => rfl
  mult := fun _ => rfl
  debe := fun h => of_decide_eq_true h
  menu := fun h => Or.inl (decide_eq_true h)

omit [DecidableEq ν] [DecidableEq ι] [DecidableEq κ] [DecidableEq ρ] in
/-- At rest every menu has set `off`, so that only a credit can have stored
`on`. -/
theorem Alumbra.veraz_iff (h : Alumbra uid s deuda) :
    Veraz uid s ↔ (EnReposo s → deuda = false) := by
  refine forall_congr' fun hreposo => ?_
  constructor
  · intro hno
    by_contra hdeuda
    exact hno (h.debe (Bool.not_eq_false _ ▸ hdeuda))
  · intro hdeuda hon
    rcases h.menu hon with htrue | ⟨n, hn⟩
    · rw [hdeuda] at htrue
      cases htrue
    · rw [hreposo.menu n] at hn
      cases hn

/-- Along every run of the app the field is truthful whenever the app is at rest
if and only if, whenever it is at rest, the menu has been stopped since the last
credit that stored `on`. -/
theorem veraz_en_reposo (uid : String) (juego : κ → String) (db : BaseDatos)
    (acts : List (Paso ν ι κ ρ)) :
    (∀ xs ys q, acts = xs ++ ys →
        Runs.run (Runs.ghost (paso uid) anotaDeuda) (inicio uid juego db) xs =
          some q → Veraz uid q.1) ↔
      ∀ xs ys q, acts = xs ++ ys →
        Runs.run (Runs.ghost (paso uid) anotaDeuda) (inicio uid juego db) xs =
          some q → EnReposo q.1 → q.2 = false := by
  have halumbra : ∀ xs (q : Estado ν ι κ ρ × Bool),
      Runs.run (Runs.ghost (paso uid) anotaDeuda) (inicio uid juego db) xs =
        some q → Alumbra uid q.1 q.2 := by
    intro xs q hrun
    refine Runs.invariant_of_step
      (I := fun p : Estado ν ι κ ρ × Bool => Alumbra uid p.1 p.2) ?_
      (alumbra_inicio uid juego db) hrun
    intro p a p' h hstep
    obtain ⟨hstep', hghost⟩ := Runs.ghost_eq_some hstep
    rw [hghost]
    exact h.step hstep'
  constructor
  · intro h xs ys q hsplit hrun
    exact (halumbra xs q hrun).veraz_iff.mp (h xs ys q hsplit hrun)
  · intro h xs ys q hsplit hrun
    exact (halumbra xs q hrun).veraz_iff.mpr (h xs ys q hsplit hrun)

/-- One menu, one solo game, one match and one search. -/
abbrev DeAna := Estado Unit Unit Unit Unit

/-- `a` opens the menu and a match, and the menu stops. -/
def abreMatch : List (Paso Unit Unit Unit Unit) :=
  [.menu () .onCreate, .menu () .onStart, .menu () .onResume,
    .menu () .onPause, .mult () .onStart,
    .entrega () Sesiones.baseAna, .mult () .userUno, .mult () .userDos,
    .menu () .onStop]

/-- `a` leaves the app from the match, which stores the record with `on`. -/
theorem encendida_en_reposo :
    ∃ s : DeAna, Runs.run (paso "a")
        (apagada "a" (fun _ => "g") Sesiones.baseAna)
        (abreMatch ++ [.mult () .onStop]) = some s ∧
      EnReposo s ∧ online s.db "a" = some "on" ∧ ¬Veraz "a" s := by
  have hvalor : (Runs.run (paso "a")
      (apagada "a" (fun _ => "g") Sesiones.baseAna : DeAna)
      (abreMatch ++ [.mult () .onStop])).map
        (fun s => (decide (EnReposo s), online s.db "a")) =
      some (true, some "on") := by
    decide
  obtain ⟨s, hrun, h⟩ := Option.map_eq_some_iff.mp hvalor
  obtain ⟨hreposo, honline⟩ := Prod.mk.inj h
  have hreposo' : EnReposo s := of_decide_eq_true hreposo
  exact ⟨s, hrun, hreposo', honline, fun hno => hno hreposo' honline⟩

end Presencia

end Tocate
