import Tocate.InicioSesion.Entry

/-!
# Accounts over sign-ins

`updateUI` creates a record when the read of the record fails, whether the record
exists or not, and starts the menu at once, whether the record exists or not.
The accounts keep their points and games, and every menu finds its record, as
long as a read fails only where nothing can be lost and a screen is left for the
menu only by users who have a record.
-/

namespace Tocate.InicioSesion

open Cloud

variable {ι : Type*}

/-! ## What a sign-in owes -/

/-- The record that is stored, and for whom, where the server accepts it. -/
def Orden.guardado? : Orden → Option (String × User)
  | .set uid u true => some (uid, u)
  | _ => none

/-- A record that exists keeps its points and games. -/
def Orden.Conserva (db : BaseDatos) (o : Orden) : Prop :=
  ∀ p ∈ o.guardado?, ∀ v ∈ db.users p.1, p.2.cuenta = v.cuenta

/-- The menu is started for a user with a record. -/
def Orden.ConRegistro (db : BaseDatos) (user : Option String) (o : Orden) :
    Prop :=
  o = .lanza → ∀ x ∈ user, db.users x ≠ none

instance (db : BaseDatos) (o : Orden) : Decidable (o.Conserva db) :=
  inferInstanceAs (Decidable (∀ p ∈ o.guardado?, ∀ v ∈ db.users p.1, _))

instance (db : BaseDatos) (user : Option String) (o : Orden) :
    Decidable (o.ConRegistro db user) :=
  inferInstanceAs (Decidable (_ → ∀ x ∈ user, _))

def Cumple (s : Entrada ι) (a : Suceso ι) : Prop :=
  ∀ o ∈ ordenes s a, o.Conserva s.db ∧ o.ConRegistro s.db s.currentUser

instance (s : Entrada ι) (a : Suceso ι) : Decidable (Cumple s a) :=
  inferInstanceAs (Decidable
    (∀ o ∈ ordenes s a, o.Conserva s.db ∧ o.ConRegistro s.db s.currentUser))

/-! ## When it is met -/

/-- What an event means for the accounts. -/
inductive Clase where
  | calla
  /-- The menu is started for the user who is signed in. -/
  | entra
  /-- The menu is started on a reply about the record of `uid`. -/
  | responde (uid : String)
  /-- A new record is stored for `uid`. -/
  | crea (uid : String) (aceptado : Bool)
deriving DecidableEq

def MainActivity.clase (user : Option String) : MainActivity.Suceso → Clase
  | .onStart | .onAuthStateChanged => if user.isSome then .entra else .calla
  | .onStop => .calla
  | .getOnSuccess uid | .setOnSuccess uid => .responde uid
  | .getOnFailure uid aceptado => .crea uid aceptado

def RegistoActivity.clase (user : Option String) :
    RegistoActivity.Suceso → Clase
  | .onComplete true aceptado => user.elim .calla fun uid => .crea uid aceptado
  | .setOnSuccess uid => .responde uid
  | .onComplete false _ | .clic _ _ _ | .onStop => .calla

def LoginActivity.clase (user : Option String) : LoginActivity.Suceso → Clase
  | .onComplete true => if user.isSome then .entra else .calla
  | .onComplete false | .clic _ _ | .onStop => .calla

def clase (s : Entrada ι) : Suceso ι → Clase
  | .main _ e => MainActivity.clase s.currentUser e
  | .registo _ e => RegistoActivity.clase s.currentUser e
  | .login _ e => LoginActivity.clase s.currentUser e
  | .getnombrePuntos _ | .sesion _ | .facebook _ | .guarda _ _ => .calla

/-- The user that the reply is about. -/
def Clase.respondido? : Clase → Option String
  | .responde uid => some uid
  | _ => none

/-- The user whose new record is accepted. -/
def Clase.creado? : Clase → Option String
  | .crea uid true => some uid
  | _ => none

/-- The menu is started at once only for a user with a record, and on a reply
only for the user the reply is about or for one with a record; a new record is
accepted only where there is none, or one without points and games. -/
def Clase.Segura (db : BaseDatos) (user : Option String) (c : Clase) : Prop :=
  (c = .entra → ∀ x ∈ user, db.users x ≠ none) ∧
    (∀ uid ∈ c.respondido?, ∀ x ∈ user, x ≠ uid → db.users x ≠ none) ∧
    ∀ uid ∈ c.creado?, ∀ v ∈ db.users uid, v.cuenta = (0, 0)

instance (db : BaseDatos) (user : Option String) (c : Clase) :
    Decidable (c.Segura db user) :=
  inferInstanceAs (Decidable
    ((_ → ∀ x ∈ user, _) ∧ (∀ uid ∈ c.respondido?, ∀ x ∈ user, _) ∧
      ∀ uid ∈ c.creado?, ∀ v ∈ db.users uid, _))

def Asegurada (s : Entrada ι) (a : Suceso ι) : Prop :=
  (clase s a).Segura s.db s.currentUser

instance (s : Entrada ι) (a : Suceso ι) : Decidable (Asegurada s a) :=
  inferInstanceAs (Decidable ((clase s a).Segura s.db s.currentUser))

/-! ## What the screens do -/

/-- The users whose records a reply is due about. -/
def MainActivity.deudas (m : MainActivity) : List String := m.pedidos ++ m.avisos

/-- What a screen does in each case: what it orders, and the replies that are
due before and afterwards. -/
def Trata (user : Option String) (d d' : List String) (os : List Orden) :
    Clase → Prop
  | .calla => os = [] ∧ d' ⊆ d
  | .entra => ∃ x, user = some x ∧ os = [.lanza] ∧ d' ⊆ x :: d
  | .responde uid => uid ∈ d ∧ os = [.lanza] ∧ d' ⊆ d
  | .crea uid aceptado =>
      ∃ name, os = [.set uid (nuevoUsuario name uid) aceptado] ∧
        d' ⊆ if aceptado then uid :: d else d

theorem trata_updateUI (fb : Facebook) (user : Option String)
    (m : MainActivity) :
    Trata user m.deudas (m.updateUI fb user).state.deudas
      (m.updateUI fb user).writes
      (if user.isSome then .entra else .calla) := by
  cases user with
  | none => exact ⟨rfl, List.Subset.refl _⟩
  | some x =>
      simp only [MainActivity.updateUI, Option.isSome_some, if_true]
      split
      · refine ⟨x, rfl, rfl, fun y hy => ?_⟩
        simp only [MainActivity.lanza, MainActivity.deudas, List.mem_append,
          List.mem_cons, List.not_mem_nil, or_false] at hy ⊢
        tauto
      · exact ⟨x, rfl, rfl, List.subset_cons_self x _⟩

theorem trata_main {fb : Facebook} {user : Option String} {m : MainActivity}
    {e : MainActivity.Suceso} {t : MainActivity.Turno}
    (h : m.atiende fb user e = some t) :
    Trata user m.deudas t.state.deudas t.writes
      (MainActivity.clase user e) := by
  -- a reply that has come is due no longer
  have hpedidos : ∀ uid, ({ m with pedidos := m.pedidos.erase uid } :
      MainActivity).deudas ⊆ m.deudas := by
    intro uid
    exact List.append_subset.mpr ⟨fun x hx =>
      List.mem_append_left _ (List.mem_of_mem_erase hx),
      List.subset_append_right _ _⟩
  cases e with
  | onStart =>
      obtain ⟨-, ⟨⟩⟩ := Option.ite_none_right_eq_some.mp h
      exact trata_updateUI fb user
        { m with iniciada := true, escucha := true }
  | onStop =>
      obtain ⟨-, ⟨⟩⟩ := Option.ite_none_right_eq_some.mp h
      exact ⟨rfl, List.Subset.refl _⟩
  | onAuthStateChanged =>
      obtain ⟨-, ⟨⟩⟩ := Option.ite_none_right_eq_some.mp h
      cases user with
      | none => exact ⟨rfl, List.Subset.refl _⟩
      | some x => exact trata_updateUI fb (some x) m
  | getOnSuccess uid =>
      obtain ⟨hmem, ⟨⟩⟩ := Option.ite_none_right_eq_some.mp h
      exact ⟨List.mem_append_left _ hmem, rfl, hpedidos uid⟩
  | getOnFailure uid aceptado =>
      obtain ⟨hmem, ⟨⟩⟩ := Option.ite_none_right_eq_some.mp h
      refine ⟨m.name, rfl, fun x hx => ?_⟩
      cases aceptado with
      | false => exact hpedidos uid hx
      | true =>
          simp only [MainActivity.getOnFailure, MainActivity.deudas, if_true,
            List.mem_append, List.mem_cons, List.not_mem_nil,
            or_false] at hx ⊢
          have herase : x ∈ m.pedidos.erase uid → x ∈ m.pedidos :=
            List.mem_of_mem_erase
          tauto
  | setOnSuccess uid =>
      obtain ⟨hmem, ⟨⟩⟩ := Option.ite_none_right_eq_some.mp h
      refine ⟨List.mem_append_right _ hmem, rfl, ?_⟩
      exact List.append_subset.mpr ⟨List.subset_append_left _ _, fun x hx =>
        List.mem_append_right _ (List.mem_of_mem_erase hx)⟩

theorem trata_registo {user : Option String} {m : RegistoActivity}
    {e : RegistoActivity.Suceso} {t : RegistoActivity.Turno}
    (h : m.atiende user e = some t) :
    Trata user m.avisos t.state.avisos t.writes
      (RegistoActivity.clase user e) := by
  cases e with
  | clic name email password =>
      obtain ⟨-, ⟨⟩⟩ := Option.ite_none_right_eq_some.mp h
      simp only [RegistoActivity.clic]
      split
      · exact ⟨rfl, List.Subset.refl _⟩
      · split
        · exact ⟨rfl, List.Subset.refl _⟩
        · split
          · exact ⟨rfl, List.Subset.refl _⟩
          · exact ⟨rfl, List.Subset.refl _⟩
  | onComplete exito aceptado =>
      obtain ⟨-, ⟨⟩⟩ := Option.ite_none_right_eq_some.mp h
      cases exito with
      | false => exact ⟨rfl, List.Subset.refl _⟩
      | true =>
          cases user with
          | none => exact ⟨rfl, List.Subset.refl _⟩
          | some uid =>
              refine ⟨m.etName, rfl, ?_⟩
              cases aceptado with
              | false => exact List.Subset.refl _
              | true =>
                  intro x hx
                  simpa [RegistoActivity.onComplete, RegistoActivity.updateUI,
                    or_comm] using hx
  | setOnSuccess uid =>
      obtain ⟨hmem, ⟨⟩⟩ := Option.ite_none_right_eq_some.mp h
      exact ⟨hmem, rfl, List.erase_subset⟩
  | onStop =>
      obtain rfl := Option.some.inj h
      exact ⟨rfl, List.Subset.refl _⟩

theorem trata_login {user : Option String} {m : LoginActivity}
    {e : LoginActivity.Suceso} {t : LoginActivity.Turno}
    (h : m.atiende user e = some t) :
    Trata user [] [] t.writes (LoginActivity.clase user e) := by
  cases e with
  | clic email password =>
      obtain ⟨-, ⟨⟩⟩ := Option.ite_none_right_eq_some.mp h
      simp only [LoginActivity.clic]
      split
      · exact ⟨rfl, List.Subset.refl _⟩
      · split
        · exact ⟨rfl, List.Subset.refl _⟩
        · exact ⟨rfl, List.Subset.refl _⟩
  | onComplete exito =>
      obtain ⟨-, ⟨⟩⟩ := Option.ite_none_right_eq_some.mp h
      cases exito with
      | false => exact ⟨rfl, List.Subset.refl _⟩
      | true =>
          cases user with
          | none => exact ⟨rfl, List.Subset.refl _⟩
          | some x => exact ⟨x, rfl, rfl, List.nil_subset _⟩
  | onStop =>
      obtain rfl := Option.some.inj h
      exact ⟨rfl, List.Subset.refl _⟩

/-! ## Runs -/

/-- A reply about the record of `uid` is due. -/
def Debe (s : Entrada ι) (uid : String) : Prop :=
  (∃ i, uid ∈ (s.main i).deudas) ∨ ∃ i, uid ∈ (s.registo i).avisos

/-- The record is there wherever a reply is due, and wherever a menu needs it,
and no menu has missed it. -/
structure Atendida (s : Entrada ι) : Prop where
  deudas : ∀ uid, Debe s uid → s.db.users uid ≠ none
  menus : ∀ m ∈ s.menus, ∀ x ∈ m.uid, s.db.users x ≠ none ∧ m.caida = false

theorem atendida_inicial (db : BaseDatos) (user : Option String)
    (fb : Facebook) : Atendida (inicial db user fb : Entrada ι) := by
  constructor
  · rintro uid (⟨i, hi⟩ | ⟨i, hi⟩)
    · exact absurd hi List.not_mem_nil
    · exact absurd hi List.not_mem_nil
  · exact List.forall_mem_nil _

theorem conUser_ne_none {db : BaseDatos} {x y : String} (u : User)
    (h : db.users y ≠ none ∨ y = x) : (db.conUser x u).users y ≠ none := by
  by_cases hy : y = x
  · rw [hy, db.conUser_self]
    exact Option.some_ne_none u
  · rw [db.conUser_ne u hy]
    exact h.resolve_right hy

/-- More records and other replies due. -/
theorem Atendida.mono {s s' : Entrada ι} (hs : Atendida s)
    (hdb : ∀ x, s.db.users x ≠ none → s'.db.users x ≠ none)
    (hmenus : s'.menus = s.menus)
    (hdebe : ∀ uid, Debe s' uid → Debe s uid ∨ s'.db.users uid ≠ none) :
    Atendida s' := by
  constructor
  · intro uid huid
    rcases hdebe uid huid with hold | hnew
    · exact hdb uid (hs.deudas uid hold)
    · exact hnew
  · rw [hmenus]
    intro m hm x hx
    exact ⟨hdb x (hs.menus m hm x hx).1, (hs.menus m hm x hx).2⟩

section Screens

variable {s s₁ : Entrada ι} {d d' : List String} {os : List Orden} {c : Clase}

/-- What a screen orders is in order if and only if the event is safe. -/
theorem Atendida.cumple_iff (hs : Atendida s) (hd : ∀ uid ∈ d, Debe s uid)
    (ht : Trata s.currentUser d d' os c) :
    (∀ o ∈ os, o.Conserva s.db ∧ o.ConRegistro s.db s.currentUser) ↔
      c.Segura s.db s.currentUser := by
  cases c with
  | calla =>
      rw [ht.1]
      exact iff_of_true (List.forall_mem_nil _) ⟨nofun, nofun, nofun⟩
  | entra =>
      obtain ⟨x, -, hos, -⟩ := ht
      rw [hos, List.forall_mem_singleton]
      exact ⟨fun h => ⟨fun _ => h.2 rfl, nofun, nofun⟩,
        fun h => ⟨nofun, fun _ => h.1 rfl⟩⟩
  | responde uid =>
      obtain ⟨huid, hos, -⟩ := ht
      rw [hos, List.forall_mem_singleton]
      constructor
      · refine fun h => ⟨nofun, ?_, nofun⟩
        rintro y ⟨⟩ x hx -
        exact h.2 rfl x hx
      · intro h
        refine ⟨nofun, fun _ x hx => ?_⟩
        by_cases hxu : x = uid
        · rw [hxu]
          exact hs.deudas uid (hd uid huid)
        · exact h.2.1 uid rfl x hx hxu
  | crea uid aceptado =>
      obtain ⟨name, hos, -⟩ := ht
      rw [hos, List.forall_mem_singleton]
      cases aceptado with
      | false => exact iff_of_true ⟨nofun, nofun⟩ ⟨nofun, nofun, nofun⟩
      | true =>
          constructor
          · refine fun h => ⟨nofun, nofun, ?_⟩
            rintro y ⟨⟩ v hv
            exact (h.1 _ rfl v hv).symm
          · refine fun h => ⟨?_, nofun⟩
            rintro p ⟨⟩ v hv
            exact (h.2.2 uid rfl v hv).symm

/-- A safe event of a screen, which has already moved to its new state. -/
theorem Atendida.cumple (hs : Atendida s) (hd : ∀ uid ∈ d, Debe s uid)
    (ht : Trata s.currentUser d d' os c)
    (hsegura : c.Segura s.db s.currentUser) (hdb : s₁.db = s.db)
    (huser : s₁.currentUser = s.currentUser) (hmenus : s₁.menus = s.menus)
    (hdebe : ∀ uid, Debe s₁ uid → Debe s uid ∨ uid ∈ d') :
    Atendida (s₁.cumpleTodas os) := by
  have hmismo : d' ⊆ d → Atendida s₁ := by
    intro hsub
    refine hs.mono (fun x hx => by rwa [hdb]) hmenus fun uid huid => ?_
    exact Or.inl ((hdebe uid huid).elim id fun h => hd uid (hsub h))
  have hlanza : Atendida s₁ →
      (∀ x ∈ s.currentUser, s.db.users x ≠ none) →
      Atendida (s₁.cumpleTodas [.lanza]) := by
    intro hs₁ hreg
    refine ⟨hs₁.deudas, fun m hm x hx => ?_⟩
    rcases List.mem_append.mp hm with hold | hnew
    · exact hs₁.menus m hold x hx
    · rw [List.mem_singleton.mp hnew, huser] at hx ⊢
      have hsome : s.currentUser = some x := hx
      constructor
      · show s₁.db.users x ≠ none
        rw [hdb]
        exact hreg x hx
      · rw [hsome]
        rfl
  cases c with
  | calla =>
      obtain ⟨rfl, hsub⟩ := ht
      exact hmismo hsub
  | entra =>
      obtain ⟨x, hx, rfl, hsub⟩ := ht
      refine hlanza ?_ (hsegura.1 rfl)
      refine hs.mono (fun y hy => by rwa [hdb]) hmenus fun uid huid => ?_
      rcases hdebe uid huid with hold | hnew
      · exact Or.inl hold
      · rcases List.mem_cons.mp (hsub hnew) with rfl | hmem
        · rw [hdb]
          exact Or.inr (hsegura.1 rfl uid hx)
        · exact Or.inl (hd uid hmem)
  | responde uid =>
      obtain ⟨huid, rfl, hsub⟩ := ht
      refine hlanza (hmismo hsub) fun x hx => ?_
      by_cases hxu : x = uid
      · rw [hxu]
        exact hs.deudas uid (hd uid huid)
      · exact hsegura.2.1 uid rfl x hx hxu
  | crea uid aceptado =>
      obtain ⟨name, rfl, hsub⟩ := ht
      cases aceptado with
      | false => exact hmismo hsub
      | true =>
          show Atendida
            { s₁ with db := s₁.db.conUser uid (nuevoUsuario name uid) }
          apply hs.mono
          · intro x hx
            apply conUser_ne_none
            rw [hdb]
            exact Or.inl hx
          · exact hmenus
          · intro x hx
            rcases hdebe x hx with hold | hnew
            · exact Or.inl hold
            · rcases List.mem_cons.mp (hsub hnew) with rfl | hmem
              · exact Or.inr (conUser_ne_none _ (Or.inr rfl))
              · exact Or.inl (hd x hmem)

theorem Trata.ordenes {user : Option String} (ht : Trata user d d' os c) :
    os = [] ∨ ∃ o, os = [o] := by
  cases c with
  | calla => exact Or.inl ht.1
  | entra =>
      obtain ⟨x, -, hos, -⟩ := ht
      exact Or.inr ⟨_, hos⟩
  | responde uid => exact Or.inr ⟨_, ht.2.1⟩
  | crea uid aceptado =>
      obtain ⟨name, hos, -⟩ := ht
      exact Or.inr ⟨_, hos⟩

end Screens

section Step

variable [DecidableEq ι] {s s' : Entrada ι} {a : Suceso ι}

/-- The event is handled by a screen, or by the menu, or it comes from the rest
of the app. -/
theorem step_cases (h : step s a = some s') :
    (∃ s₁ d d' os, (∀ uid ∈ d, Debe s uid) ∧
      Trata s.currentUser d d' os (clase s a) ∧ ordenes s a = os ∧
      s₁.db = s.db ∧ s₁.currentUser = s.currentUser ∧ s₁.menus = s.menus ∧
      (∀ uid, Debe s₁ uid → Debe s uid ∨ uid ∈ d') ∧
      s' = s₁.cumpleTodas os) ∨
    (ordenes s a = [] ∧ clase s a = .calla ∧ (∀ uid, Debe s' uid → Debe s uid) ∧
      ((∃ n m, s.menus[n]? = some m ∧ m.caida = false ∧ s'.db = s.db ∧
        s'.menus = s.menus.set n (m.getnombrePuntos (m.uid.bind s.db.users))) ∨
      (s'.menus = s.menus ∧
        (s'.db = s.db ∨ ∃ x u, a = .guarda x u ∧ s'.db = s.db.conUser x u)))) := by
  cases a with
  | main i e =>
      obtain ⟨t, ht, rfl⟩ := Option.map_eq_some_iff.mp h
      left
      refine ⟨{ s with main := Function.update s.main i t.state }, _, _, _,
        fun uid hu => Or.inl ⟨i, hu⟩, trata_main ht, ?_, rfl, rfl, rfl, ?_, rfl⟩
      · simp only [ordenes, ht, Option.map_some, Option.getD_some]
      · rintro uid (⟨k, hk⟩ | hk)
        · by_cases hki : k = i
          · subst hki
            right
            simpa using hk
          · left
            exact Or.inl ⟨k, by simpa [hki] using hk⟩
        · exact Or.inl (Or.inr hk)
  | registo i e =>
      obtain ⟨t, ht, rfl⟩ := Option.map_eq_some_iff.mp h
      left
      refine ⟨{ s with registo := Function.update s.registo i t.state }, _, _, _,
        fun uid hu => Or.inr ⟨i, hu⟩, trata_registo ht, ?_, rfl, rfl, rfl, ?_,
        rfl⟩
      · simp only [ordenes, ht, Option.map_some, Option.getD_some]
      · rintro uid (hk | ⟨k, hk⟩)
        · exact Or.inl (Or.inl hk)
        · by_cases hki : k = i
          · subst hki
            right
            simpa using hk
          · left
            exact Or.inr ⟨k, by simpa [hki] using hk⟩
  | login i e =>
      obtain ⟨t, ht, rfl⟩ := Option.map_eq_some_iff.mp h
      left
      refine ⟨{ s with login := Function.update s.login i t.state }, _, _, _,
        List.forall_mem_nil _, trata_login ht, ?_, rfl, rfl,
        rfl, fun uid hk => Or.inl hk, rfl⟩
      simp only [ordenes, ht, Option.map_some, Option.getD_some]
  | getnombrePuntos n =>
      right
      simp only [step] at h
      split at h
      · exact absurd h (by simp)
      next m hm =>
        split at h
        · exact absurd h (by simp)
        next hcaida =>
          obtain rfl := Option.some.inj h
          exact ⟨rfl, rfl, fun _ hd => hd,
            Or.inl ⟨n, m, hm, by simpa using hcaida, rfl, rfl⟩⟩
  | sesion user =>
      obtain rfl := Option.some.inj h
      exact Or.inr ⟨rfl, rfl, fun _ hd => hd, Or.inr ⟨rfl, Or.inl rfl⟩⟩
  | facebook fb =>
      obtain rfl := Option.some.inj h
      exact Or.inr ⟨rfl, rfl, fun _ hd => hd, Or.inr ⟨rfl, Or.inl rfl⟩⟩
  | guarda x u =>
      obtain rfl := Option.some.inj h
      exact Or.inr ⟨rfl, rfl, fun _ hd => hd,
        Or.inr ⟨rfl, Or.inr ⟨x, u, rfl, rfl⟩⟩⟩

omit [DecidableEq ι] in
/-- A menu that finds its record goes on. -/
theorem Atendida.getnombrePuntos (hs : Atendida s) {n : ℕ} {m : Menu}
    (hm : s.menus[n]? = some m) (hcaida : m.caida = false)
    (hdb : s'.db = s.db) (hdebe : ∀ uid, Debe s' uid → Debe s uid)
    (hmenus : s'.menus =
      s.menus.set n (m.getnombrePuntos (m.uid.bind s.db.users))) :
    Atendida s' := by
  constructor
  · intro uid huid
    rw [hdb]
    exact hs.deudas uid (hdebe uid huid)
  · rw [hmenus, hdb]
    intro m' hm' x hx
    rcases List.mem_or_eq_of_mem_set hm' with hold | rfl
    · exact hs.menus m' hold x hx
    · have huid : (m.getnombrePuntos (m.uid.bind s.db.users)).uid = m.uid := by
        unfold Menu.getnombrePuntos
        split
        · rfl
        · rfl
      rw [huid, Option.mem_def] at hx
      obtain ⟨hdoc, -⟩ :=
        hs.menus m (List.mem_of_getElem? hm) x (Option.mem_def.mpr hx)
      obtain ⟨u, hu⟩ := Option.ne_none_iff_exists'.mp hdoc
      refine ⟨hdoc, ?_⟩
      rw [hx, Option.bind_some, hu]
      exact hcaida

theorem Atendida.step (hs : Atendida s) (hok : Asegurada s a)
    (h : InicioSesion.step s a = some s') : Atendida s' := by
  rcases step_cases h with
    ⟨s₁, d, d', os, hd, ht, -, hdb, huser, hmenus, hdebe, rfl⟩ |
    ⟨-, -, hdebe, ⟨n, m, hm, hcaida, hdb, hmenus⟩ | ⟨hmenus, hdb⟩⟩
  · exact hs.cumple hd ht hok hdb huser hmenus hdebe
  · exact hs.getnombrePuntos hm hcaida hdb hdebe hmenus
  · refine hs.mono (fun x hx => ?_) hmenus fun uid huid => Or.inl (hdebe uid huid)
    rcases hdb with hdb | ⟨y, u, -, hdb⟩
    · rwa [hdb]
    · rw [hdb]
      exact conUser_ne_none u (Or.inl hx)

/-- A step is in order if and only if it is safe. -/
theorem Atendida.step_iff (hs : Atendida s)
    (h : InicioSesion.step s a = some s') : Cumple s a ↔ Asegurada s a := by
  rcases step_cases h with
    ⟨s₁, d, d', os, hd, ht, hos, -⟩ | ⟨hos, hclase, -⟩
  · unfold Cumple
    rw [hos]
    exact hs.cumple_iff hd ht
  · unfold Cumple Asegurada
    rw [hos, hclase]
    exact iff_of_true (List.forall_mem_nil _) ⟨nofun, nofun, nofun⟩

/-- A step that is in order keeps the points and games of a record, unless the
rest of the app stores it. -/
theorem Cumple.conserva (hcumple : Cumple s a)
    (h : InicioSesion.step s a = some s') {x : String}
    (hno : ∀ u, a ≠ .guarda x u) {v : ℤ × ℤ}
    (hx : (s.db.users x).map User.cuenta = some v) :
    (s'.db.users x).map User.cuenta = some v := by
  rcases step_cases h with
    ⟨s₁, d, d', os, -, ht, hos, hdb, -, -, -, rfl⟩ |
    ⟨-, -, -, ⟨n, m, -, -, hdb, -⟩ | ⟨-, hdb | ⟨y, u, rfl, hdb⟩⟩⟩
  · unfold Cumple at hcumple
    rw [hos] at hcumple
    rcases ht.ordenes with rfl | ⟨o, rfl⟩
    · rw [Entrada.cumpleTodas, List.foldl_nil, hdb]
      exact hx
    · rw [List.forall_mem_singleton] at hcumple
      rw [Entrada.cumpleTodas, List.foldl_cons, List.foldl_nil]
      cases o with
      | lanza =>
          show (s₁.db.users x).map User.cuenta = some v
          rw [hdb]
          exact hx
      | set uid u aceptado =>
          cases aceptado with
          | false =>
              show (s₁.db.users x).map User.cuenta = some v
              rw [hdb]
              exact hx
          | true =>
              show ((s₁.db.conUser uid u).users x).map User.cuenta = some v
              rw [hdb]
              by_cases hxu : x = uid
              · subst hxu
                obtain ⟨w, hw, hwv⟩ := Option.map_eq_some_iff.mp hx
                rw [s.db.conUser_self, Option.map_some, ← hwv]
                exact congrArg some (hcumple.1 _ rfl w hw)
              · rw [s.db.conUser_ne u hxu]
                exact hx
  · rw [hdb]
    exact hx
  · rw [hdb]
    exact hx
  · have hxy : x ≠ y := fun heq => hno u (by rw [heq])
    rw [hdb, s.db.conUser_ne u hxy]
    exact hx

/-- In every run, no sign-in takes points or games from a record and no menu is
started for a user without one, if and only if every event is safe; and then
every menu finds its record, and the records that only sign-ins have touched are
there with their points and games. -/
theorem cuentas_conservadas (db : BaseDatos) (user : Option String)
    (fb : Facebook) {acts : List (Suceso ι)} {s : Entrada ι}
    (hrun : Runs.run InicioSesion.step (inicial db user fb) acts = some s) :
    (Runs.Along InicioSesion.step Cumple (inicial db user fb) acts ↔
      Runs.Along InicioSesion.step Asegurada (inicial db user fb) acts) ∧
    (Runs.Along InicioSesion.step Asegurada (inicial db user fb) acts →
      (∀ m ∈ s.menus, ∀ x ∈ m.uid,
        s.db.users x ≠ none ∧ m.caida = false) ∧
      ∀ x v, (∀ u, .guarda x u ∉ acts) →
        (db.users x).map User.cuenta = some v →
          (s.db.users x).map User.cuenta = some v) := by
  have hinit : Atendida (inicial db user fb : Entrada ι) :=
    atendida_inicial db user fb
  have hbase : Runs.Along InicioSesion.step (fun _ _ => True)
      (inicial db user fb) acts :=
    Runs.Along.of_forall (fun _ _ => trivial) _ _
  constructor
  · exact Runs.Along.iff_of_invariant
      (fun _ _ _ hs _ hok hstep => Atendida.step hs hok hstep)
      (fun _ _ _ hs _ hstep => Atendida.step_iff hs hstep) hinit hbase hrun
  · intro hok
    constructor
    · exact (Runs.invariant (fun _ _ _ hs hsegura hstep =>
        Atendida.step hs hsegura hstep) hinit hok hrun).menus
    · intro x v hno hx
      have hajeno : Runs.Along InicioSesion.step
          (fun _ a => ∀ u, a ≠ .guarda x u) (inicial db user fb) acts :=
        Runs.Along.of_mem fun a ha u heq => hno u (heq ▸ ha)
      have hfin : Atendida s ∧ (s.db.users x).map User.cuenta = some v := by
        apply Runs.invariant (I := fun p : Entrada ι =>
          Atendida p ∧ (p.db.users x).map User.cuenta = some v) _
          ⟨hinit, hx⟩ (hok.and hajeno) hrun
        rintro p a q ⟨hp, hpx⟩ ⟨hsegura, hno⟩ hstep
        exact ⟨hp.step hsegura hstep,
          ((hp.step_iff hstep).mpr hsegura).conserva hstep hno hpx⟩
      exact hfin.2

end Step

/-- `a` has ten points from four games. -/
def baseAna : BaseDatos :=
  BaseDatos.vacia.conUser "a" (User.nuevo "Ana" 10 4 "a")

/-- The profile of `a`. -/
def perfilAna : Facebook where
  accessToken := true
  profile := some "Ana"

/-- `a` opens the app, is found and leaves; `c` registers. -/
def vuelveAna : List (Suceso Unit) :=
  [.main () .onStart, .getnombrePuntos 0, .main () (.getOnSuccess "a"),
    .main () .onStop, .sesion none,
    .registo () (.clic "Carla" "carla@c" "secreto"), .sesion (some "c"),
    .registo () (.onComplete true true), .registo () (.setOnSuccess "c"),
    .getnombrePuntos 2]

theorem cuentas_conservadas_ana :
    ∃ s, Runs.run step (inicial baseAna (some "a") perfilAna) vuelveAna =
        some s ∧
      (∀ m ∈ s.menus, ∀ x ∈ m.uid,
        s.db.users x ≠ none ∧ m.caida = false) ∧
      (s.db.users "a").map User.cuenta = some (10, 4) := by
  obtain ⟨s, hrun⟩ := Option.isSome_iff_exists.mp
    (show (Runs.run step (inicial baseAna (some "a") perfilAna)
      vuelveAna).isSome = true by decide)
  have h := (cuentas_conservadas baseAna (some "a") perfilAna hrun).2 (by decide)
  refine ⟨s, hrun, h.1, h.2 "a" (10, 4) ?_ rfl⟩
  intro u hu
  simp [vuelveAna] at hu

/-- The read of the record of `a` fails, and her points and games are gone; `a`
has no record yet, and the menu does not find one. -/
theorem cuentas_perdidas :
    (¬Runs.Along step Cumple (inicial baseAna (some "a") perfilAna)
        [Suceso.main () .onStart, .main () (.getOnFailure "a" true)] ∧
      ∃ s, Runs.run step (inicial baseAna (some "a") perfilAna)
          [Suceso.main () .onStart, .main () (.getOnFailure "a" true)] =
            some s ∧
        (s.db.users "a").map User.cuenta = some (0, 0)) ∧
    ¬Runs.Along step Cumple (inicial BaseDatos.vacia (some "a") perfilAna)
        [Suceso.main () .onStart, .main () (.getOnSuccess "a"),
          .getnombrePuntos 0] ∧
      ∃ s, Runs.run step (inicial BaseDatos.vacia (some "a") perfilAna)
          [Suceso.main () .onStart, .main () (.getOnSuccess "a"),
            .getnombrePuntos 0] = some s ∧
        s.db.users "a" = none ∧ s.menus.map Menu.caida = [true, false] := by
  have hprimero : (Runs.run step (inicial baseAna (some "a") perfilAna)
      [Suceso.main () .onStart, .main () (.getOnFailure "a" true)]).map
        (fun s => (s.db.users "a").map User.cuenta) = some (some (0, 0)) := by
    decide
  have hsegundo : (Runs.run step
      (inicial BaseDatos.vacia (some "a") perfilAna)
      [Suceso.main () .onStart, .main () (.getOnSuccess "a"),
        .getnombrePuntos 0]).map
        (fun s => (s.db.users "a", s.menus.map Menu.caida)) =
          some (none, [true, false]) := by
    decide
  obtain ⟨s, hs, hcuenta⟩ := Option.map_eq_some_iff.mp hprimero
  obtain ⟨t, ht, hmenus⟩ := Option.map_eq_some_iff.mp hsegundo
  obtain ⟨hnone, hcaida⟩ := Prod.mk.inj hmenus
  exact ⟨⟨by decide, s, hs, hcuenta⟩, by decide, t, ht, hnone, hcaida⟩

end Tocate.InicioSesion
