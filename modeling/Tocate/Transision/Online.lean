import Tocate.FindGame.Intents
import Tocate.Transision.Activity

/-!
# UserOnlineFragment and MyUserOnlineRecyclerViewAdapter

The list in the menu of the players that are online, and the button in each of
its rows.  The listener of the query is never removed: it is called after the
fragment has been detached, and after the user has signed out.

A new list is shown with the first document of a snapshot, so a snapshot without
documents leaves the old one on the screen.
-/

namespace Tocate

open Cloud

/-- The fields of the fragment, with the list that its adapter holds and what
`getCurrentUser` says. -/
structure UserOnlineFragment where
  currentUser : Option String
  userList : List User := []
  /-- `mValues` of the adapter that is set. -/
  adapter : Option (List User) := none
  adjunto : Bool := true
  /-- The menu has been told to finish. -/
  terminada : Bool := false
  caida : Bool := false
deriving DecidableEq, Repr

namespace UserOnlineFragment

abbrev Turno := Outcome UserOnlineFragment Efecto

def sigue (f : UserOnlineFragment) : Turno := { state := f }

/-- An exception that nobody catches. -/
def falla (f : UserOnlineFragment) : Turno := { state := f, failed := true }

/-- The menu of user `uid` has just been opened. -/
def nuevo (uid : String) : UserOnlineFragment where
  currentUser := some uid

/-- The loop over the documents; `getUid` is asked for at each of them. -/
def recorre : List User → UserOnlineFragment → Turno
  | [], f => sigue f
  | doc :: value, f =>
      match f.currentUser with
      | none => falla f
      | some uid =>
          let f :=
            if doc.foto ≠ uid then { f with userList := f.userList ++ [doc] }
            else f
          recorre value { f with adapter := some f.userList }

/-- `onEvent` of the query; an error comes without documents, and its text is
only to be had while the fragment is attached. -/
def onEvent (value : Option (List User)) (f : UserOnlineFragment) : Turno :=
  match value with
  | none => if f.adjunto then sigue f else falla f
  | some value => recorre value { f with userList := [] }

def getItemCount (f : UserOnlineFragment) : ℕ := (f.adapter.getD []).length

/-- A row of the list, with the intent of its button. -/
structure ViewHolder where
  tvnombre : String
  tvpuntos : String
  BtInvitar : FindGame.Intent
deriving DecidableEq, Repr

/-- The row at `position`, where there is one. -/
def onBindViewHolder (position : ℕ) (f : UserOnlineFragment) :
    Option ViewHolder :=
  (f.adapter.getD [])[position]?.map fun u =>
    { tvnombre := u.name
      tvpuntos := toString u.points
      BtInvitar := FindGame.Intent.BtInvitar u.foto }

/-- The button of the menu that signs the user out. -/
def fab (f : UserOnlineFragment) : Turno :=
  { state := { f with currentUser := none, terminada := true }
    writes := [.actulizarDBuser "off"] }

inductive Suceso where
  /-- The listener is given the users that are online, or an error. -/
  | onEvent (value : Option (List User))
  | fab
  | onDetach
  /-- Somebody signs in on another screen. -/
  | entra (uid : String)
deriving DecidableEq, Repr

/-- The query is for `online` equal to `on`; nobody can sign in while somebody
is signed in. -/
def atiende (f : UserOnlineFragment) : Suceso → Option Turno
  | .onEvent value =>
      if ∀ docs ∈ value, ∀ u ∈ docs, u.Online = some "on" then
        some (f.onEvent value)
      else none
  | .fab => if f.terminada then none else some f.fab
  | .onDetach => some (sigue { f with adjunto := false })
  | .entra uid =>
      if f.currentUser = none then
        some (sigue { f with currentUser := some uid })
      else none

/-- An uncaught exception takes the app down. -/
def paso (f : UserOnlineFragment) (e : Suceso) : Option UserOnlineFragment :=
  if f.caida then none
  else (atiende f e).map fun t =>
    { t.state with caida := t.state.caida || t.failed }

/-! ## The loop -/

/-- The documents of the others. -/
def otros (uid : String) (value : List User) : List User :=
  value.filter fun u => u.foto ≠ uid

/-- The list that a snapshot leaves in the adapter. -/
theorem recorre_eq {uid : String} (value : List User)
    (f : UserOnlineFragment) (hf : f.currentUser = some uid) :
    recorre value f = sigue
      { f with
        userList := f.userList ++ otros uid value
        adapter :=
          if value = [] then f.adapter
          else some (f.userList ++ otros uid value) } := by
  induction value generalizing f with
  | nil =>
      unfold recorre
      rw [otros, List.filter_nil, List.append_nil, if_pos rfl]
  | cons doc value ih =>
      obtain ⟨currentUser, userList, adapter, adjunto, terminada, caida⟩ := f
      cases hf
      unfold recorre
      dsimp only
      rw [if_neg (List.cons_ne_nil doc value)]
      by_cases hdoc : doc.foto = uid
      · have hotros : otros uid (doc :: value) = otros uid value :=
          List.filter_cons_of_neg (by simp [hdoc])
        rw [if_neg (not_not_intro hdoc), ih _ rfl, hotros]
        cases value with
        | nil => simp [otros]
        | cons doc' value => rfl
      · have hotros : otros uid (doc :: value) = doc :: otros uid value :=
          List.filter_cons_of_pos (by simp [hdoc])
        rw [if_pos hdoc, ih _ rfl, hotros]
        cases value with
        | nil => simp [otros]
        | cons doc' value => simp

/-- With nobody signed in the first document is one too many. -/
theorem recorre_none (value : List User) {f : UserOnlineFragment}
    (hf : f.currentUser = none) :
    recorre value f = if value = [] then sigue f else falla f := by
  cases value with
  | nil => rfl
  | cons doc value =>
      unfold recorre
      rw [hf, if_neg (List.cons_ne_nil doc value)]

/-! ## What an event does -/

/-- The list in the adapter after a snapshot. -/
def trasVer (uid : String) (value : List User) (adapter : Option (List User)) :
    Option (List User) :=
  if value = [] then adapter else some (otros uid value)

/-- What a step of the fragment can be. -/
inductive Cambio (f f' : UserOnlineFragment) : Suceso → Prop where
  | ve (value : List User) (uid : String) (huid : f.currentUser = some uid)
      (hon : ∀ u ∈ value, u.Online = some "on")
      (hf' : f' = { f with
        userList := otros uid value
        adapter := trasVer uid value f.adapter }) :
      Cambio f f' (.onEvent (some value))
  | nada (huid : f.currentUser = none) (hf' : f' = { f with userList := [] }) :
      Cambio f f' (.onEvent (some []))
  | sinUsuario (value : List User) (huid : f.currentUser = none)
      (hon : ∀ u ∈ value, u.Online = some "on") (hvalue : value ≠ [])
      (hf' : f' = { f with userList := [], caida := true }) :
      Cambio f f' (.onEvent (some value))
  | error (hadjunto : f.adjunto = true) (hf' : f' = f) :
      Cambio f f' (.onEvent none)
  | suelto (hadjunto : f.adjunto = false) (hf' : f' = { f with caida := true }) :
      Cambio f f' (.onEvent none)
  | fab (hterminada : f.terminada = false)
      (hf' : f' = { f with currentUser := none, terminada := true }) :
      Cambio f f' .fab
  | onDetach (hf' : f' = { f with adjunto := false }) : Cambio f f' .onDetach
  | entra (uid : String) (huid : f.currentUser = none)
      (hf' : f' = { f with currentUser := some uid }) : Cambio f f' (.entra uid)

theorem cambio_onEvent {f f' : UserOnlineFragment} {value : List User}
    (hviva : f.caida = false) (hon : ∀ u ∈ value, u.Online = some "on")
    (h : f' = { (f.onEvent (some value)).state with
      caida := (f.onEvent (some value)).state.caida ||
        (f.onEvent (some value)).failed }) :
    Cambio f f' (.onEvent (some value)) := by
  obtain ⟨currentUser, userList, adapter, adjunto, terminada, caida⟩ := f
  cases hviva
  unfold onEvent at h
  dsimp only at h
  cases currentUser with
  | some uid =>
      rw [recorre_eq value _ rfl] at h
      refine .ve value uid rfl hon (h.trans ?_)
      simp [sigue, trasVer]
  | none =>
      rw [recorre_none value rfl] at h
      by_cases hvalue : value = []
      · subst hvalue
        exact .nada rfl h
      · rw [if_neg hvalue] at h
        exact .sinUsuario value rfl hon hvalue h

theorem paso_cambio {f f' : UserOnlineFragment} {e : Suceso}
    (h : paso f e = some f') : f.caida = false ∧ Cambio f f' e := by
  unfold paso at h
  split at h
  · cases h
  next hcaida =>
    have hviva : f.caida = false := by simpa using hcaida
    refine ⟨hviva, ?_⟩
    obtain ⟨t, ht, rfl⟩ := Option.map_eq_some_iff.mp h
    have hsigue : ∀ g : UserOnlineFragment, g.caida = false →
        { (sigue g).state with caida := (sigue g).state.caida || (sigue g).failed }
          = g := by
      rintro ⟨currentUser, userList, adapter, adjunto, terminada, caida⟩ ⟨⟩
      rfl
    cases e with
    | onEvent value =>
        obtain ⟨hon, ⟨⟩⟩ := Option.ite_none_right_eq_some.mp ht
        cases value with
        | some value => exact cambio_onEvent hviva (hon value rfl) rfl
        | none =>
            unfold onEvent
            cases hadjunto : f.adjunto with
            | true => exact .error hadjunto (hsigue f hviva)
            | false =>
                refine .suelto hadjunto ?_
                simp [falla]
    | fab =>
        obtain ⟨hterminada, ⟨⟩⟩ := Option.ite_none_left_eq_some.mp ht
        refine .fab (by simpa using hterminada) ?_
        simp [fab]
    | onDetach =>
        cases ht
        exact .onDetach (hsigue _ hviva)
    | entra uid =>
        obtain ⟨huid, ⟨⟩⟩ := Option.ite_none_right_eq_some.mp ht
        exact .entra uid huid (hsigue _ hviva)

/-! ## The list along a run -/

/-- The documents of the last snapshot that had any, after one more event. -/
def ve (o : Option (List User)) : Suceso → Option (List User)
  | .onEvent (some value) => if value = [] then o else some value
  | .onEvent none | .fab | .onDetach | .entra _ => o

theorem ve_onEvent (o : Option (List User)) (value : List User) :
    ve o (.onEvent (some value)) = if value = [] then o else some value := rfl

def vista (acts : List Suceso) : Option (List User) := acts.foldl ve none

/-- Until it is told to finish, the menu shows the others of the last snapshot
with documents. -/
structure Fiel (uid : String) (f : UserOnlineFragment) (o : Option (List User)) :
    Prop where
  currentUser : f.terminada = false → f.currentUser = some uid
  adapter : f.terminada = false → f.adapter = o.map (otros uid)
  online : ∀ value ∈ o, ∀ u ∈ value, u.Online = some "on"

theorem fiel_nuevo (uid : String) : Fiel uid (nuevo uid) none :=
  ⟨fun _ => rfl, fun _ => rfl, fun _ h => by cases h⟩

theorem Fiel.paso {uid : String} {f f' : UserOnlineFragment}
    {o : Option (List User)} {e : Suceso} (h : Fiel uid f o)
    (hpaso : UserOnlineFragment.paso f e = some f') :
    Fiel uid f' (ve o e) := by
  cases (paso_cambio hpaso).2 with
  | ve value x huid hon hf' =>
      subst hf'
      rw [ve_onEvent]
      by_cases hvalue : value = []
      · rw [if_pos hvalue]
        refine ⟨h.currentUser, fun hmenu => ?_, h.online⟩
        dsimp only
        rw [trasVer, if_pos hvalue]
        exact h.adapter hmenu
      · rw [if_neg hvalue]
        refine ⟨h.currentUser, fun hmenu => ?_, fun v hv => ?_⟩
        · have hx : uid = x := Option.some.inj ((h.currentUser hmenu).symm.trans huid)
          subst hx
          exact if_neg hvalue
        · cases hv
          exact hon
  | nada huid hf' =>
      subst hf'
      exact ⟨h.currentUser, h.adapter, h.online⟩
  | sinUsuario value huid hon hvalue hf' =>
      have hmenu : f.terminada ≠ false := fun hmenu =>
        nomatch (h.currentUser hmenu).symm.trans huid
      subst hf'
      rw [ve_onEvent, if_neg hvalue]
      refine ⟨(absurd · hmenu), (absurd · hmenu), fun v hv => ?_⟩
      cases hv
      exact hon
  | error hadjunto hf' =>
      subst hf'
      exact h
  | suelto hadjunto hf' =>
      subst hf'
      exact ⟨h.currentUser, h.adapter, h.online⟩
  | fab hterminada hf' =>
      subst hf'
      exact ⟨nofun, nofun, h.online⟩
  | onDetach hf' =>
      subst hf'
      exact ⟨h.currentUser, h.adapter, h.online⟩
  | entra x huid hf' =>
      subst hf'
      refine ⟨fun hmenu => ?_, h.adapter, h.online⟩
      have hno := (h.currentUser hmenu).symm.trans huid
      cases hno

theorem fiel_run {uid : String} {acts : List Suceso} {f : UserOnlineFragment}
    (hrun : Runs.run UserOnlineFragment.paso (nuevo uid) acts = some f) :
    Fiel uid f (vista acts) := by
  unfold vista
  exact Runs.invariant_foldl
    (fun s o a s' _ hs hpaso => hs.paso hpaso) (fiel_nuevo uid) hrun

/-- What the menu shows is the last snapshot that had documents, without the
user himself; each row invites its own user, whose menu will ask him, unless his
id has a `?`. -/
theorem filas_en_linea {uid : String} {acts : List Suceso}
    {f : UserOnlineFragment}
    (hrun : Runs.run UserOnlineFragment.paso (nuevo uid) acts = some f)
    (hmenu : f.terminada = false) :
    f.getItemCount = (otros uid ((vista acts).getD [])).length ∧
      ∀ position fila, f.onBindViewHolder position = some fila →
        ∃ u, (otros uid ((vista acts).getD []))[position]? = some u ∧
          u.Online = some "on" ∧ u.foto ≠ uid ∧
          fila.tvnombre = u.name ∧ fila.tvpuntos = toString u.points ∧
          Transision.pendiente u.foto (Jugada.nueva uid u.foto) = true ∧
          ∀ document nueva, (fila.BtInvitar.abre document (some uid) nueva).2 =
              [.addJugada nueva (Jugada.nueva uid u.foto)] ↔
            '?' ∉ u.foto.toList := by
  have hfiel := fiel_run hrun
  have hlista : f.adapter.getD [] = otros uid ((vista acts).getD []) := by
    rw [hfiel.adapter hmenu]
    cases vista acts with
    | none => rfl
    | some value => rfl
  refine ⟨congrArg List.length hlista, fun position fila hfila => ?_⟩
  obtain ⟨u, hu, rfl⟩ := Option.map_eq_some_iff.mp hfila
  rw [hlista] at hu
  obtain ⟨hvista, hotro⟩ := List.mem_filter.mp (List.mem_of_getElem? hu)
  have hotro : u.foto ≠ uid := of_decide_eq_true hotro
  have hon : u.Online = some "on" := by
    cases hv : vista acts with
    | none =>
        rw [hv] at hvista
        exact absurd hvista List.not_mem_nil
    | some value =>
        rw [hv] at hvista
        exact hfiel.online value hv u hvista
  refine ⟨u, hu, hon, hotro, rfl, rfl, ?_, fun document nueva => ?_⟩
  · simp [Transision.pendiente, Jugada.nueva, hotro.symm]
  · exact FindGame.Intent.abre_BtInvitar_iff document uid nueva u.foto

/-- The record of a player who is online. -/
def enLinea (uid : String) : User :=
  { User.nuevo uid 0 0 uid with Online := some "on" }

/-- The rows stay when nobody is online any more. -/
theorem filas_en_linea_ana :
    ∃ f fila, Runs.run paso (nuevo "ana")
        [.onEvent (some [enLinea "ana", enLinea "blas"]), .onEvent (some [])] =
          some f ∧
      f.getItemCount = 1 ∧ f.onBindViewHolder 0 = some fila ∧
      (fila.BtInvitar.abre (fun id => id ≠ "") (some "ana") "g").2 =
        [.addJugada "g" (Jugada.nueva "ana" "blas")] := by
  have hrun : Runs.run paso (nuevo "ana")
      [.onEvent (some [enLinea "ana", enLinea "blas"]), .onEvent (some [])] =
        some
          { nuevo "ana" with adapter := some [enLinea "blas"] } := by decide
  obtain ⟨hcount, hfilas⟩ := filas_en_linea hrun rfl
  obtain ⟨u, hu, -, -, -, -, -, habre⟩ := hfilas 0 _ rfl
  obtain rfl : enLinea "blas" = u := Option.some.inj hu
  exact ⟨_, _, hrun, hcount, rfl, (habre _ "g").mpr (by decide)⟩

/-! ## Signing out -/

/-- A snapshot with documents comes, or an error after the detaching. -/
def Peligro (adjunto : Bool) (acts : List Suceso) : Prop :=
  (∃ value, value ≠ [] ∧ .onEvent (some value) ∈ acts) ∨
    ∃ xs ys, acts = xs ++ .onEvent none :: ys ∧
      (adjunto = false ∨ .onDetach ∈ xs)

/-- An event that is none of those leaves the rest to be looked at. -/
theorem peligro_cons {adjunto adjunto' : Bool} {e : Suceso}
    {acts : List Suceso} (he : ∀ value, value ≠ [] → e ≠ .onEvent (some value))
    (herror : e = .onEvent none → adjunto = true)
    (hadjunto : adjunto' = false ↔ adjunto = false ∨ e = .onDetach) :
    Peligro adjunto (e :: acts) ↔ Peligro adjunto' acts := by
  have hdocs : (∃ value, value ≠ [] ∧ Suceso.onEvent (some value) ∈ e :: acts) ↔
      ∃ value, value ≠ [] ∧ Suceso.onEvent (some value) ∈ acts := by
    refine exists_congr fun value => and_congr_right fun hvalue => ?_
    rw [List.mem_cons, or_iff_right (he value hvalue).symm]
  unfold Peligro
  rw [hdocs]
  refine or_congr_right ⟨?_, ?_⟩
  · rintro ⟨xs, ys, hsplit, hdetach⟩
    cases xs with
    | nil =>
        obtain ⟨rfl, -⟩ := List.cons.inj hsplit
        rw [herror rfl] at hdetach
        exact absurd hdetach (by simp)
    | cons x xs =>
        obtain ⟨rfl, rfl⟩ := List.cons.inj hsplit
        refine ⟨xs, ys, rfl, ?_⟩
        rw [hadjunto, or_assoc, eq_comm (a := e), ← List.mem_cons]
        exact hdetach
  · rintro ⟨xs, ys, rfl, hdetach⟩
    refine ⟨e :: xs, ys, rfl, ?_⟩
    rw [hadjunto, or_assoc, eq_comm (a := e), ← List.mem_cons] at hdetach
    exact hdetach

/-- With nobody signed in, the danger is what takes the app down. -/
theorem caida_iff_peligro {f t : UserOnlineFragment} {acts : List Suceso}
    (huid : f.currentUser = none) (hviva : f.caida = false)
    (hnadie : ∀ uid, .entra uid ∉ acts)
    (hrun : Runs.run UserOnlineFragment.paso f acts = some t) :
    t.caida = true ↔ Peligro f.adjunto acts := by
  induction acts generalizing f with
  | nil =>
      cases hrun
      rw [hviva]
      refine iff_of_false nofun ?_
      rintro (⟨value, -, hmem⟩ | ⟨xs, ys, hsplit, -⟩)
      · exact absurd hmem List.not_mem_nil
      · exact absurd hsplit (by simp)
  | cons e acts ih =>
      obtain ⟨f', hpaso, hrest⟩ := Runs.run_cons_eq_some hrun
      have hresto : ∀ uid, .entra uid ∉ acts := fun uid hmem =>
        hnadie uid (List.mem_cons_of_mem e hmem)
      have hcaida : f'.caida = true → t = f' := by
        intro hf'
        cases acts with
        | nil => exact (Option.some.inj hrest).symm
        | cons e' acts =>
            obtain ⟨f'', hpaso', -⟩ := Runs.run_cons_eq_some hrest
            exact absurd (paso_cambio hpaso').1 (by simp [hf'])
      cases (paso_cambio hpaso).2 with
      | ve value x hx hon hf' => exact absurd (huid.symm.trans hx) nofun
      | nada _ hf' =>
          subst hf'
          have hsigue : Peligro f.adjunto (.onEvent (some []) :: acts) ↔
              Peligro f.adjunto acts := by
            refine peligro_cons ?_ nofun (by simp)
            rintro value hvalue ⟨⟩
            exact hvalue rfl
          rw [ih (f := { f with userList := [] }) huid hviva hresto hrest]
          exact hsigue.symm
      | sinUsuario value _ hon hvalue hf' =>
          subst hf'
          rw [hcaida rfl]
          exact iff_of_true rfl (Or.inl ⟨value, hvalue, List.mem_cons_self⟩)
      | error hadjunto hf' =>
          subst hf'
          have hsigue : Peligro f'.adjunto (.onEvent none :: acts) ↔
              Peligro f'.adjunto acts := by
            refine peligro_cons ?_ (fun _ => hadjunto) (by simp)
            rintro value - ⟨⟩
          rw [ih huid hviva hresto hrest]
          exact hsigue.symm
      | suelto hadjunto hf' =>
          subst hf'
          rw [hcaida rfl]
          exact iff_of_true rfl (Or.inr ⟨[], acts, rfl, Or.inl hadjunto⟩)
      | fab hterminada hf' =>
          subst hf'
          have hsigue : Peligro f.adjunto (.fab :: acts) ↔
              Peligro f.adjunto acts := by
            refine peligro_cons ?_ nofun (by simp)
            rintro value - ⟨⟩
          rw [ih (f := { f with currentUser := none, terminada := true }) rfl
            hviva hresto hrest]
          exact hsigue.symm
      | onDetach hf' =>
          subst hf'
          have hsigue : Peligro f.adjunto (.onDetach :: acts) ↔
              Peligro false acts := by
            refine peligro_cons ?_ nofun (by simp)
            rintro value - ⟨⟩
          rw [ih (f := { f with adjunto := false }) huid hviva hresto hrest]
          exact hsigue.symm
      | entra x _ hf' => exact absurd List.mem_cons_self (hnadie x)

/-- After the button that signs the user out, and until somebody signs in, the
app is taken down exactly by a snapshot that shows anybody online, or by an error
once the menu is gone. -/
theorem salida_iff {f t : UserOnlineFragment} {acts : List Suceso}
    (hnadie : ∀ uid, .entra uid ∉ acts)
    (hrun : Runs.run UserOnlineFragment.paso f (.fab :: acts) = some t) :
    t.caida = true ↔ Peligro f.adjunto acts := by
  obtain ⟨f', hpaso, hrest⟩ := Runs.run_cons_eq_some hrun
  obtain ⟨hviva, hcambio⟩ := paso_cambio hpaso
  cases hcambio with
  | fab hterminada hf' =>
      subst hf'
      exact caida_iff_peligro
        (f := { f with currentUser := none, terminada := true }) rfl hviva hnadie
        hrest

/-- Ana signs out while Blas is online. -/
theorem salida_iff_ana :
    ∃ t, Runs.run paso (nuevo "ana") [.fab, .onEvent (some [enLinea "blas"])] =
        some t ∧ t.caida = true := by
  have hrun : Runs.run paso (nuevo "ana")
      [.fab, .onEvent (some [enLinea "blas"])] =
        some
          { nuevo "ana" with
            currentUser := none, terminada := true, caida := true } := by decide
  refine ⟨_, hrun, (salida_iff (by simp) hrun).mpr (Or.inl ?_)⟩
  exact ⟨[enLinea "blas"], List.cons_ne_nil _ _, List.mem_cons_self⟩

end UserOnlineFragment

end Tocate
