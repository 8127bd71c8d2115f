import Tocate.InicioSesion.Accounts

/-!
# Where a record comes from

Signing in stores whole records.  In every run, whatever is found in `users` was
there before, has been stored by the rest of the app, or is the empty record of
a user who has been signed in, under the name of a Facebook profile or of a form
that has passed its checks.
-/

namespace Tocate.InicioSesion

open Cloud

variable {ι : Type*}

/-! ## What has been seen -/

/-- A name that a new record may have in a run with the events of `past`. -/
inductive Nombrado (fb : Facebook) (past : List (Suceso ι)) : String → Prop where
  | perfil (fb' : Facebook) (name : String)
      (hfb : fb' = fb ∨ .facebook fb' ∈ past) (htoken : fb'.accessToken = true)
      (hprofile : fb'.profile = some name) : Nombrado fb past name
  | formulario (i : ι) (name email password : String)
      (hclic : .registo i (.clic name email password) ∈ past)
      (hname : 4 < longitud name.toList) (hemail : email ≠ "")
      (hpassword : 5 < longitud password.toList) : Nombrado fb past name

/-- The user has been signed in. -/
def Entrado (user : Option String) (past : List (Suceso ι)) (x : String) : Prop :=
  user = some x ∨ .sesion (some x) ∈ past

/-- The record `u` of `x` was there, or has been stored by the rest of the app,
or is a new one. -/
def ConOrigen (db : BaseDatos) (user : Option String) (fb : Facebook)
    (past : List (Suceso ι)) (x : String) (u : User) : Prop :=
  db.users x = some u ∨ .guarda x u ∈ past ∨
    Entrado user past x ∧ ∃ name, Nombrado fb past name ∧ u = nuevoUsuario name x

/-! ## The names in the screens -/

/-- A name is asked about only where the profile has it. -/
theorem main_pedidos {fb : Facebook} {user : Option String} {m : MainActivity}
    {e : MainActivity.Suceso} {t : MainActivity.Turno}
    (h : m.atiende fb user e = some t) {x : String}
    (hx : x ∈ t.state.pedidos) :
    (x ∈ m.pedidos ∨ user = some x) ∧
      (t.state.name = m.name ∧ m.pedidos ≠ [] ∨
        fb.accessToken = true ∧ fb.profile = some t.state.name) := by
  have hnada : ∀ l : List String, l ⊆ m.pedidos → x ∈ l →
      (x ∈ m.pedidos ∨ user = some x) ∧ (m.name = m.name ∧ m.pedidos ≠ [] ∨
        fb.accessToken = true ∧ fb.profile = some m.name) := by
    intro l hsub hmem
    exact ⟨Or.inl (hsub hmem), Or.inl ⟨rfl, List.ne_nil_of_mem (hsub hmem)⟩⟩
  have hupdate : ∀ m' : MainActivity, m'.pedidos = m.pedidos →
      m'.name = m.name → x ∈ (m'.updateUI fb user).state.pedidos →
      (x ∈ m.pedidos ∨ user = some x) ∧
        ((m'.updateUI fb user).state.name = m.name ∧ m.pedidos ≠ [] ∨
          fb.accessToken = true ∧
            fb.profile = some (m'.updateUI fb user).state.name) := by
    rintro ⟨name, escucha, iniciada, terminada, pedidos, avisos⟩ rfl rfl hx
    obtain ⟨accessToken, profile⟩ := fb
    cases user with
    | none => exact hnada _ (List.Subset.refl _) hx
    | some y =>
        cases accessToken with
        | false => exact ⟨Or.inl hx, Or.inl ⟨rfl, List.ne_nil_of_mem hx⟩⟩
        | true =>
            cases profile with
            | none => exact ⟨Or.inl hx, Or.inl ⟨rfl, List.ne_nil_of_mem hx⟩⟩
            | some nombre =>
                refine ⟨?_, Or.inr ⟨rfl, rfl⟩⟩
                rcases List.mem_append.mp hx with hold | hnew
                · exact Or.inl hold
                · exact Or.inr (congrArg some (List.mem_singleton.mp hnew).symm)
  cases e with
  | onStart =>
      obtain ⟨-, ⟨⟩⟩ := Option.ite_none_right_eq_some.mp h
      exact hupdate { m with iniciada := true, escucha := true } rfl rfl hx
  | onStop =>
      obtain ⟨-, ⟨⟩⟩ := Option.ite_none_right_eq_some.mp h
      exact hnada _ (List.Subset.refl _) hx
  | onAuthStateChanged =>
      obtain ⟨-, ⟨⟩⟩ := Option.ite_none_right_eq_some.mp h
      cases user with
      | none => exact hnada _ (List.Subset.refl _) hx
      | some y => exact hupdate m rfl rfl hx
  | getOnSuccess uid =>
      obtain ⟨-, ⟨⟩⟩ := Option.ite_none_right_eq_some.mp h
      exact hnada _ List.erase_subset hx
  | getOnFailure uid aceptado =>
      obtain ⟨-, ⟨⟩⟩ := Option.ite_none_right_eq_some.mp h
      exact hnada _ List.erase_subset hx
  | setOnSuccess uid =>
      obtain ⟨-, ⟨⟩⟩ := Option.ite_none_right_eq_some.mp h
      exact hnada _ (List.Subset.refl _) hx

theorem main_set {fb : Facebook} {user : Option String} {m : MainActivity}
    {e : MainActivity.Suceso} {t : MainActivity.Turno}
    (h : m.atiende fb user e = some t) {x : String} {u : User}
    {aceptado : Bool} (hset : .set x u aceptado ∈ t.writes) :
    x ∈ m.pedidos ∧ u = nuevoUsuario m.name x := by
  have hupdate : ∀ m' : MainActivity,
      .set x u aceptado ∉ (m'.updateUI fb user).writes := by
    intro m' hmem
    unfold MainActivity.updateUI at hmem
    split at hmem
    · exact absurd hmem List.not_mem_nil
    · split at hmem
      · exact absurd (List.mem_singleton.mp hmem) nofun
      · exact absurd (List.mem_singleton.mp hmem) nofun
  cases e with
  | onStart =>
      obtain ⟨-, ⟨⟩⟩ := Option.ite_none_right_eq_some.mp h
      exact absurd hset (hupdate _)
  | onStop =>
      obtain ⟨-, ⟨⟩⟩ := Option.ite_none_right_eq_some.mp h
      exact absurd hset List.not_mem_nil
  | onAuthStateChanged =>
      obtain ⟨-, ⟨⟩⟩ := Option.ite_none_right_eq_some.mp h
      cases user with
      | none => exact absurd hset List.not_mem_nil
      | some y => exact absurd hset (hupdate m)
  | getOnSuccess uid =>
      obtain ⟨-, ⟨⟩⟩ := Option.ite_none_right_eq_some.mp h
      exact absurd (List.mem_singleton.mp hset) nofun
  | getOnFailure uid ac =>
      obtain ⟨hmem, ⟨⟩⟩ := Option.ite_none_right_eq_some.mp h
      cases List.mem_singleton.mp hset
      exact ⟨hmem, rfl⟩
  | setOnSuccess uid =>
      obtain ⟨-, ⟨⟩⟩ := Option.ite_none_right_eq_some.mp h
      exact absurd (List.mem_singleton.mp hset) nofun

/-- The form is shown only while no task is under way, and a task has the name
of a form that has passed. -/
structure EnOrden (fb : Facebook) (past : List (Suceso ι)) (m : RegistoActivity) :
    Prop where
  libre : m.formulario = true → m.tareas = 0
  una : m.tareas ≤ 1
  nombre : 0 < m.tareas → Nombrado fb past m.etName

theorem enOrden_of_tareas {fb : Facebook} {past : List (Suceso ι)}
    {m : RegistoActivity} (h : m.tareas = 0) : EnOrden fb past m :=
  ⟨fun _ => h, by omega, fun ht => by omega⟩

theorem EnOrden.clic {fb : Facebook} {past : List (Suceso ι)}
    {m : RegistoActivity} (h : EnOrden fb past m) (hform : m.formulario = true)
    {i : ι} {name email password : String}
    (hclic : .registo i (.clic name email password) ∈ past) :
    EnOrden fb past (m.clic name email password).state := by
  have htareas : m.tareas = 0 := h.libre hform
  have hquieta : ∀ error, EnOrden fb past
      { m with
        etName := name, name := name, email := email, password := password
        error := error } := by
    intro error
    exact enOrden_of_tareas htareas
  unfold RegistoActivity.clic
  dsimp only
  split
  · exact hquieta _
  next hname =>
    split
    · exact hquieta _
    next hemail =>
      split
      · exact hquieta _
      next hpassword =>
        refine ⟨nofun, ?_, fun _ => ?_⟩
        · show m.tareas + 1 ≤ 1
          omega
        · exact .formulario i name email password hclic (by omega) hemail
            (by omega)

theorem EnOrden.atiende {fb : Facebook} {past : List (Suceso ι)}
    {user : Option String} {m : RegistoActivity} {e : RegistoActivity.Suceso}
    {t : RegistoActivity.Turno} {i : ι} (h : EnOrden fb past m)
    (he : .registo i e ∈ past)
    (ht : RegistoActivity.atiende user m e = some t) :
    EnOrden fb past t.state := by
  cases e with
  | clic name email password =>
      obtain ⟨⟨hform, -⟩, ⟨⟩⟩ := Option.ite_none_right_eq_some.mp ht
      exact h.clic hform he
  | onComplete exito aceptado =>
      obtain ⟨htareas, ⟨⟩⟩ := Option.ite_none_right_eq_some.mp ht
      have huna := h.una
      have hmenos : m.tareas - 1 = 0 := by omega
      unfold RegistoActivity.onComplete RegistoActivity.updateUI
      split
      · exact enOrden_of_tareas hmenos
      · exact enOrden_of_tareas hmenos
  | setOnSuccess uid =>
      obtain ⟨-, ⟨⟩⟩ := Option.ite_none_right_eq_some.mp ht
      exact ⟨h.libre, h.una, h.nombre⟩
  | onStop =>
      cases ht
      exact enOrden_of_tareas rfl

theorem registo_set {user : Option String} {m : RegistoActivity}
    {e : RegistoActivity.Suceso} {t : RegistoActivity.Turno}
    (h : m.atiende user e = some t) {x : String} {u : User} {aceptado : Bool}
    (hset : .set x u aceptado ∈ t.writes) :
    user = some x ∧ 0 < m.tareas ∧ u = nuevoUsuario m.etName x := by
  cases e with
  | clic name email password =>
      obtain ⟨-, ⟨⟩⟩ := Option.ite_none_right_eq_some.mp h
      unfold RegistoActivity.clic at hset
      dsimp only at hset
      split at hset
      · exact absurd hset List.not_mem_nil
      · split at hset
        · exact absurd hset List.not_mem_nil
        · split at hset
          · exact absurd hset List.not_mem_nil
          · exact absurd hset List.not_mem_nil
  | onComplete exito ac =>
      obtain ⟨htareas, ⟨⟩⟩ := Option.ite_none_right_eq_some.mp h
      cases exito with
      | false => exact absurd hset List.not_mem_nil
      | true =>
          cases user with
          | none => exact absurd hset List.not_mem_nil
          | some y =>
              cases List.mem_singleton.mp hset
              exact ⟨rfl, htareas, rfl⟩
  | setOnSuccess uid =>
      obtain ⟨-, ⟨⟩⟩ := Option.ite_none_right_eq_some.mp h
      exact absurd (List.mem_singleton.mp hset) nofun
  | onStop =>
      cases h
      exact absurd hset List.not_mem_nil

theorem login_set {user : Option String} {m : LoginActivity}
    {e : LoginActivity.Suceso} {t : LoginActivity.Turno}
    (h : m.atiende user e = some t) {x : String} {u : User} {aceptado : Bool} :
    .set x u aceptado ∉ t.writes := by
  intro hset
  have htrata := trata_login h
  cases hclase : LoginActivity.clase user e with
  | calla =>
      rw [hclase] at htrata
      rw [htrata.1] at hset
      exact absurd hset List.not_mem_nil
  | entra =>
      rw [hclase] at htrata
      obtain ⟨y, -, hos, -⟩ := htrata
      rw [hos] at hset
      exact absurd (List.mem_singleton.mp hset) nofun
  | responde uid =>
      rw [hclase] at htrata
      exact absurd htrata.1 List.not_mem_nil
  | crea uid ac =>
      cases e with
      | clic email password => cases hclase
      | onStop => cases hclase
      | onComplete exito =>
          cases exito with
          | false => cases hclase
          | true => cases user with
            | none => cases hclase
            | some y => cases hclase

/-! ## The orders of a step -/

section Orders

variable (s : Entrada ι) (os : List Orden)

theorem cumpleTodas_users {x : String} {u : User}
    (h : (s.cumpleTodas os).db.users x = some u) :
    s.db.users x = some u ∨ .set x u true ∈ os := by
  induction os generalizing s with
  | nil => exact Or.inl h
  | cons o os ih =>
      rcases ih (s.cumple o) h with hdb | hmem
      · cases o with
        | lanza => exact Or.inl hdb
        | set y v aceptado =>
            cases aceptado with
            | false => exact Or.inl hdb
            | true =>
                by_cases hxy : x = y
                · subst hxy
                  have huv : some v = some u :=
                    (s.db.conUser_self x v).symm.trans hdb
                  rw [Option.some.inj huv]
                  exact Or.inr List.mem_cons_self
                · left
                  rw [← s.db.conUser_ne v hxy]
                  exact hdb
      · exact Or.inr (List.mem_cons_of_mem o hmem)

/-- The orders leave the screens and the session alone. -/
theorem cumpleTodas_resto :
    (s.cumpleTodas os).currentUser = s.currentUser ∧
      (s.cumpleTodas os).facebook = s.facebook ∧
      (s.cumpleTodas os).main = s.main ∧
      (s.cumpleTodas os).registo = s.registo := by
  induction os generalizing s with
  | nil => exact ⟨rfl, rfl, rfl, rfl⟩
  | cons o os ih =>
      obtain ⟨huser, hfb, hmain, hregisto⟩ := ih (s.cumple o)
      have hcumple : (s.cumple o).currentUser = s.currentUser ∧
          (s.cumple o).facebook = s.facebook ∧ (s.cumple o).main = s.main ∧
          (s.cumple o).registo = s.registo := by
        cases o with
        | lanza => exact ⟨rfl, rfl, rfl, rfl⟩
        | set y v aceptado =>
            cases aceptado with
            | false => exact ⟨rfl, rfl, rfl, rfl⟩
            | true => exact ⟨rfl, rfl, rfl, rfl⟩
      exact ⟨huser.trans hcumple.1, hfb.trans hcumple.2.1,
        hmain.trans hcumple.2.2.1, hregisto.trans hcumple.2.2.2⟩

end Orders

/-! ## Along a run -/

/-- What is known of the device in a run with the events of `past`. -/
structure Rastro (db : BaseDatos) (user : Option String) (fb : Facebook)
    (s : Entrada ι) (past : List (Suceso ι)) : Prop where
  users : ∀ x u, s.db.users x = some u → ConOrigen db user fb past x u
  currentUser : ∀ x, s.currentUser = some x → Entrado user past x
  facebook : s.facebook = fb ∨ .facebook s.facebook ∈ past
  main : ∀ i x, x ∈ (s.main i).pedidos →
    Entrado user past x ∧ Nombrado fb past (s.main i).name
  registo : ∀ i, EnOrden fb past (s.registo i)

section Step

variable [DecidableEq ι] {db : BaseDatos} {user : Option String}
  {fb : Facebook} {s s' : Entrada ι} {past : List (Suceso ι)} {a : Suceso ι}

omit [DecidableEq ι] in
theorem rastro_inicial :
    Rastro db user fb (inicial db user fb : Entrada ι) past where
  users := fun _ _ h => Or.inl h
  currentUser := fun _ h => Or.inl h
  facebook := Or.inl rfl
  main := fun _ _ h => absurd h List.not_mem_nil
  registo := fun _ => enOrden_of_tareas rfl

omit [DecidableEq ι] in
/-- Orders that store records of known origin keep what is known. -/
theorem Rastro.cumpleTodas {os : List Orden} (h : Rastro db user fb s past)
    (hset : ∀ x u, .set x u true ∈ os → ConOrigen db user fb past x u) :
    Rastro db user fb (s.cumpleTodas os) past := by
  obtain ⟨huser, hfb, hmain, hregisto⟩ := cumpleTodas_resto s os
  refine ⟨fun x u hu => ?_, ?_, ?_, ?_, ?_⟩
  · rcases cumpleTodas_users s os hu with hdb | hmem
    · exact h.users x u hdb
    · exact hset x u hmem
  · rw [huser]
    exact h.currentUser
  · rw [hfb]
    exact h.facebook
  · rw [hmain]
    exact h.main
  · rw [hregisto]
    exact h.registo

theorem Rastro.pasoMain (h : Rastro db user fb s past) {i : ι}
    {e : MainActivity.Suceso} {t : MainActivity.Turno}
    (ht : (s.main i).atiende s.facebook s.currentUser e = some t) :
    Rastro db user fb
      ({ s with main := Function.update s.main i t.state }.cumpleTodas t.writes)
      past := by
  apply Rastro.cumpleTodas
  · refine ⟨h.users, h.currentUser, h.facebook, fun k x hx => ?_, h.registo⟩
    by_cases hk : k = i
    · subst hk
      simp only [Function.update_self] at hx ⊢
      obtain ⟨hentrado, hname⟩ := main_pedidos ht hx
      constructor
      · exact hentrado.elim (fun hold => (h.main k x hold).1) (h.currentUser x)
      · obtain ⟨heq, hpedidos⟩ | ⟨htoken, hprofile⟩ := hname
        · obtain ⟨y, hy⟩ := List.exists_mem_of_ne_nil _ hpedidos
          rw [heq]
          exact (h.main k y hy).2
        · exact .perfil s.facebook _ h.facebook htoken hprofile
    · simp only [Function.update_of_ne hk] at hx ⊢
      exact h.main k x hx
  · intro x u hset
    obtain ⟨hmem, hu⟩ := main_set ht hset
    obtain ⟨hentrado, hname⟩ := h.main i x hmem
    exact Or.inr (Or.inr ⟨hentrado, _, hname, hu⟩)

theorem Rastro.pasoRegisto (h : Rastro db user fb s past) {i : ι}
    {e : RegistoActivity.Suceso} {t : RegistoActivity.Turno}
    (he : .registo i e ∈ past)
    (ht : (s.registo i).atiende s.currentUser e = some t) :
    Rastro db user fb
      ({ s with registo := Function.update s.registo i t.state }.cumpleTodas
        t.writes) past := by
  apply Rastro.cumpleTodas
  · refine ⟨h.users, h.currentUser, h.facebook, h.main, fun k => ?_⟩
    by_cases hk : k = i
    · subst hk
      simp only [Function.update_self]
      exact (h.registo k).atiende he ht
    · simp only [Function.update_of_ne hk]
      exact h.registo k
  · intro x u hset
    obtain ⟨huser, htareas, hu⟩ := registo_set ht hset
    exact Or.inr (Or.inr
      ⟨h.currentUser x huser, _, (h.registo i).nombre htareas, hu⟩)

theorem Rastro.paso (h : Rastro db user fb s past) (ha : a ∈ past)
    (hstep : InicioSesion.step s a = some s') : Rastro db user fb s' past := by
  cases a with
  | main i e =>
      obtain ⟨t, ht, rfl⟩ := Option.map_eq_some_iff.mp hstep
      exact h.pasoMain ht
  | registo i e =>
      obtain ⟨t, ht, rfl⟩ := Option.map_eq_some_iff.mp hstep
      exact h.pasoRegisto ha ht
  | login i e =>
      obtain ⟨t, ht, rfl⟩ := Option.map_eq_some_iff.mp hstep
      have hquieta : Rastro db user fb
          { s with login := Function.update s.login i t.state } past :=
        ⟨h.users, h.currentUser, h.facebook, h.main, h.registo⟩
      exact hquieta.cumpleTodas fun x u hset => absurd hset (login_set ht)
  | getnombrePuntos n =>
      simp only [step] at hstep
      split at hstep
      · cases hstep
      · split at hstep
        · cases hstep
        · cases hstep
          exact ⟨h.users, h.currentUser, h.facebook, h.main, h.registo⟩
  | sesion x =>
      cases hstep
      refine ⟨h.users, fun y hy => ?_, h.facebook, h.main, h.registo⟩
      exact Or.inr (hy ▸ ha)
  | facebook fb' =>
      cases hstep
      exact ⟨h.users, h.currentUser, Or.inr ha, h.main, h.registo⟩
  | guarda x u =>
      cases hstep
      refine ⟨fun y v hv => ?_, h.currentUser, h.facebook, h.main, h.registo⟩
      by_cases hyx : y = x
      · subst hyx
        have huv : some u = some v := (s.db.conUser_self y u).symm.trans hv
        exact Or.inr (Or.inl (Option.some.inj huv ▸ ha))
      · exact h.users y v ((s.db.conUser_ne u hyx).symm.trans hv)

/-- In every run, each record that is found was there or has been stored by the
rest of the app, or is empty and of a user who has been signed in, with the name
of a profile or of a form that has passed.  If the others give every record the
id of its user, so does signing in. -/
theorem registros_con_origen (db : BaseDatos) (user : Option String)
    (fb : Facebook) {acts : List (Suceso ι)} {s : Entrada ι}
    (hrun : Runs.run InicioSesion.step (inicial db user fb) acts = some s) :
    (∀ x u, s.db.users x = some u → ConOrigen db user fb acts x u) ∧
      ((∀ x u, db.users x = some u ∨ .guarda x u ∈ acts → u.foto = x) →
        ∀ x u, s.db.users x = some u → u.foto = x) := by
  have hmem : Runs.Along InicioSesion.step (fun _ a => a ∈ acts)
      (inicial db user fb) acts := Runs.Along.of_mem fun _ ha => ha
  have hrastro : Rastro db user fb s acts :=
    Runs.invariant (fun _ _ _ hs ha hstep => Rastro.paso hs ha hstep)
      rastro_inicial hmem hrun
  refine ⟨hrastro.users, fun hfoto x u hu => ?_⟩
  obtain hdb | hguarda | ⟨-, name, -, rfl⟩ := hrastro.users x u hu
  · exact hfoto x u (Or.inl hdb)
  · exact hfoto x u (Or.inr hguarda)
  · rfl

end Step

/-- Carla's record has come with the run in which Ana is back. -/
theorem registros_con_origen_ana :
    ∃ s, Runs.run step (inicial baseAna (some "a") perfilAna) vuelveAna =
        some s ∧
      s.db.users "c" = some (nuevoUsuario "Carla" "c") ∧
      ConOrigen baseAna (some "a") perfilAna vuelveAna "c"
        (nuevoUsuario "Carla" "c") := by
  obtain ⟨s, hrun, hc⟩ := Option.map_eq_some_iff.mp
    (show (Runs.run step (inicial baseAna (some "a") perfilAna)
      vuelveAna).map (fun s => s.db.users "c") =
        some (some (nuevoUsuario "Carla" "c")) by decide)
  exact ⟨s, hrun, hc,
    (registros_con_origen baseAna (some "a") perfilAna hrun).1 "c" _ hc⟩

end Tocate.InicioSesion
