import Tocate.FindGame.Copies
import Tocate.FindGame.Exclusive
import Tocate.Transision.Activity

/-!
# Game modes

A game is created by a free search, for a user who is invited, or for whoever
opens a link.  The two fields that tell the modes apart are set by the creation
and never change, although every other writer rewrites the document from a copy
that may be old.  So a free search claims the games of free searches only, and
`DetectarJugada` finds invitations only.

What is known along a run is which method has created each game.
-/

namespace Tocate

namespace Creacion

/-- One of the users has made the call: a link is addressed to nobody but its
creator, and an invitation to somebody. -/
def Valida {ι : Type*} (uid : ι → String) : Creacion → Prop
  | .crearNuevaJugada u => ∃ i, u = uid i
  | .crearNuevaJugadaRef true u IDusuario => (∃ i, u = uid i) ∧ IDusuario = u
  | .crearNuevaJugadaRef false u IDusuario => (∃ i, u = uid i) ∧ IDusuario ≠ ""

end Creacion

namespace Sala

open Cloud

variable {ι : Type*} [DecidableEq ι]

/-- Which call has created each game. -/
abbrev Altas := String → Option Creacion

/-- The games that an event creates are noted with the call. -/
def anota (s : Estado ι) : Paso ι → Altas → Altas
  | .event i (.busca e), r => fun g =>
      if g ∈ (programa.issues s (.event i (.busca e))).filterMap Escritura.crea
      then (s.client i).busca.creacion e else r g
  | _, r => r

/-- The two fields of the copy are those that the creation has set. -/
def Fiel (r : Altas) (g : String) (j : Jugada) : Prop :=
  ∃ c, r g = some c ∧ j.jugadorUnoID = c.jugadorUnoID ∧
    j.invitacionID = c.invitacionID

/-- The user who is invited. -/
def invita? : Paso ι → Option String
  | .event _ (.busca (.onCreate (.Invita IDusuario _))) => some IDusuario
  | _ => none

/-- Somebody is invited. -/
def Invitado (a : Paso ι) : Prop := ∀ IDusuario ∈ invita? a, IDusuario ≠ ""

instance (a : Paso ι) : Decidable (Invitado a) :=
  inferInstanceAs (Decidable (∀ IDusuario ∈ invita? a, _))

/-- No id is used twice. -/
def SinRepetir (s : Estado ι) : Prop :=
  (s.issued.filterMap Escritura.crea).Nodup

instance (s : Estado ι) : Decidable (SinRepetir s) :=
  inferInstanceAs (Decidable (s.issued.filterMap Escritura.crea).Nodup)

/-- The document of a game as the server has it, or as a device sees it with
its own writes applied. -/
def Mostrada (s : Estado ι) (g : String) (j : Jugada) : Prop :=
  s.server.jugadas g = some j ∨
    ∃ i, (programa.view s i).jugadas g = some j

/-- In state `s`, with the creations `r`: wherever a game is kept, its two fields
are those of its creation; whatever a free search claims is a game of somebody
else's free search; and `DetectarJugada` tells user `m.uid` of nothing but a game
that somebody else has created to invite him. -/
structure Separados (s : Estado ι) (r : Altas) : Prop where
  altas : ∀ g j, .addJugada g j ∈ s.issued → Fiel r g j
  mostrada : ∀ g j, Mostrada s g j → Fiel r g j
  copias : Copias (Fiel r) s
  reclama : ∀ i e g j, .reclamar g j ∈ programa.issues s (.event i e) →
    ∃ v, r g = some (.crearNuevaJugada v) ∧ v ≠ (s.client i).busca.uid
  avisa : ∀ (m : Transision) docs, m.uid ≠ "" →
    (∀ p ∈ docs, Mostrada s p.1 p.2 ∧ p.2.invitacionID = m.uid) →
      m.onEvent (some docs) = Transision.sigue m ∨
      ∃ g v, (m.onEvent (some docs)).state.jugadaId = some g ∧
        r g = some (.crearNuevaJugadaRef false v m.uid) ∧ v ≠ m.uid

omit [DecidableEq ι] in
theorem deCreacion_fiel (r : Altas) : DeCreacion (Fiel r) := by
  rintro g j j' huno hinv ⟨c, hc, huno', hinv'⟩
  exact ⟨c, hc, huno.trans huno', hinv.trans hinv'⟩

theorem Fiel.mono {r r' : Altas} (hle : ∀ g c, r g = some c → r' g = some c)
    {g : String} {j : Jugada} (h : Fiel r g j) : Fiel r' g j := by
  obtain ⟨c, hc, hcampos⟩ := h
  exact ⟨c, hle g c hc, hcampos⟩

/-! ## What is known of the creations -/

/-- The creations that are noted are those of the games that have been added. -/
structure Anotado (uid : ι → String) (s : Estado ι) (r : Altas) : Prop where
  usuario : ∀ i, (s.client i).busca.uid = uid i
  enviado : ∀ i, s.outbox i ⊆ s.issued
  altas : ∀ g j, .addJugada g j ∈ s.issued → Fiel r g j
  issued : ∀ g c, r g = some c → g ∈ s.issued.filterMap Escritura.crea
  valida : ∀ g c, r g = some c → c.Valida uid
  copias : Copias (Fiel r) s

section Steps

variable {uid : ι → String} {s s' : Estado ι} {r : Altas} {a : Paso ι}

omit [DecidableEq ι] in
/-- Games are created by the search screens. -/
theorem issues_addJugada {g : String} {j : Jugada}
    (h : .addJugada g j ∈ programa.issues s a) :
    ∃ i e c, a = .event i (.busca e) ∧
      (s.client i).busca.creacion e = some c ∧
      j.jugadorUnoID = c.jugadorUnoID ∧ j.invitacionID = c.invitacionID := by
  cases a with
  | event i e =>
      obtain ⟨⟨a', ws⟩, hreact, hws⟩ := Program.of_mem_issues h
      have hr : react s.server (programa.view s i) (s.client i) e =
        some (a', ws) := hreact
      cases e with
      | busca e =>
          obtain ⟨-, hbusca, -⟩ := react_busca hr
          obtain ⟨-, t, ht, hcierra⟩ := FindGame.react_eq_some hbusca
          obtain ⟨-, rfl⟩ := Prod.mk.inj hcierra
          obtain ⟨c, hc, hcampos⟩ := FindGame.creacion_of_addJugada ht hws
          exact ⟨i, e, c, rfl, hc, hcampos⟩
      | juega e =>
          rcases juega_escribe hr (.addJugada g j) hws with ⟨_, _, hw⟩ | ⟨_, _, hw⟩
          · cases hw
          · cases hw
      | cancelarJugada g' =>
          obtain ⟨-, rfl, -⟩ := react_cancelarJugada hr
          cases List.mem_singleton.mp hws
  | arrive i => cases h
  | confirm i =>
      rw [issues_confirm] at h
      cases h
  | deliver i =>
      rw [issues_deliver] at h
      cases h
  | skip i => cases h

/-- An id is noted once, so nothing that is noted is ever changed. -/
theorem Anotado.crece (h : Anotado uid s r)
    (hstep : programa.step s a = some s') (hids : SinRepetir s') {g : String}
    {c : Creacion} (hc : r g = some c) : anota s a r g = some c := by
  unfold SinRepetir at hids
  rw [Program.step_issued hstep, List.filterMap_append] at hids
  have hvieja := h.issued g c hc
  cases a with
  | event i e =>
      cases e with
      | busca e =>
          have hno := (List.nodup_append.mp hids).2.2 g hvieja
          simp only [anota]
          rw [if_neg fun hnueva => hno g hnueva rfl]
          exact hc
      | juega e => exact hc
      | cancelarJugada g' => exact hc
  | arrive i => exact hc
  | confirm i => exact hc
  | deliver i => exact hc
  | skip i => exact hc

omit [DecidableEq ι] in
theorem anota_eq_some {g : String} {c : Creacion} (h : anota s a r g = some c) :
    r g = some c ∨ ∃ i e, a = .event i (.busca e) ∧
      g ∈ (programa.issues s a).filterMap Escritura.crea ∧
      (s.client i).busca.creacion e = some c := by
  cases a with
  | event i e =>
      cases e with
      | busca e =>
          simp only [anota] at h
          split at h
          next hnueva => exact Or.inr ⟨i, e, rfl, hnueva, h⟩
          · exact Or.inl h
      | juega e => exact Or.inl h
      | cancelarJugada g' => exact Or.inl h
  | arrive i => exact Or.inl h
  | confirm i => exact Or.inl h
  | deliver i => exact Or.inl h
  | skip i => exact Or.inl h

omit [DecidableEq ι] in
theorem creacion_valida {i : ι} {e : FindGame.Suceso} {c : Creacion}
    {f : FindGame} (huid : f.uid = uid i)
    (hinv : Invitado (.event i (.busca e) : Paso ι))
    (hc : f.creacion e = some c) : c.Valida uid := by
  unfold FindGame.creacion at hc
  split at hc
  · cases hc
    exact ⟨⟨i, huid⟩, hinv _ rfl⟩
  · cases hc
    exact ⟨⟨i, huid⟩, rfl⟩
  · cases hc
    exact ⟨i, huid⟩
  · cases hc

theorem Anotado.step (h : Anotado uid s r) (hinv : Invitado a)
    (hstep : programa.step s a = some s') (hids : SinRepetir s') :
    Anotado uid s' (anota s a r) := by
  have hcrece : ∀ g c, r g = some c → anota s a r g = some c :=
    fun g c => h.crece hstep hids
  have hissued := Program.step_issued hstep
  refine ⟨?_, Program.step_subset_issued hstep h.enviado, ?_, ?_, ?_, ?_⟩
  · intro i
    rw [step_uid hstep]
    exact h.usuario i
  · intro g j hj
    rw [hissued] at hj
    rcases List.mem_append.mp hj with hold | hnew
    · exact (h.altas g j hold).mono hcrece
    · obtain ⟨i, e, c, rfl, hc, hcampos⟩ := issues_addJugada hnew
      have hcrea : g ∈ (programa.issues s (.event i (.busca e))).filterMap
          Escritura.crea := List.mem_filterMap.mpr ⟨_, hnew, rfl⟩
      refine ⟨c, ?_, hcampos⟩
      simp only [anota]
      rw [if_pos hcrea]
      exact hc
  · intro g c hc
    rw [hissued, List.filterMap_append]
    rcases anota_eq_some hc with hold | ⟨-, -, -, hnew, -⟩
    · exact List.mem_append_left _ (h.issued g c hold)
    · exact List.mem_append_right _ hnew
  · intro g c hc
    rcases anota_eq_some hc with hold | ⟨i, e, rfl, -, hnew⟩
    · exact h.valida g c hold
    · exact creacion_valida (h.usuario i) hinv hnew
  · refine (h.copias.mono fun g j => Fiel.mono hcrece).step
      (deCreacion_fiel _) ?_ hstep
    rintro i g j ws - hbox
    exact (h.altas g j (h.enviado i (mem_of_eq_cons hbox))).mono hcrece

/-! ## The modes -/

omit [DecidableEq ι] in
/-- A game without an addressee has been created by a free search. -/
theorem Anotado.libre (h : Anotado uid s r) (huid : ∀ i, uid i ≠ "")
    {g : String} {j : Jugada} (hj : Fiel r g j) (hinv : j.invitacionID = "") :
    r g = some (.crearNuevaJugada j.jugadorUnoID) := by
  obtain ⟨c, hc, huno, hinv'⟩ := hj
  have hvalida := h.valida g c hc
  rw [hc, huno]
  rw [hinv] at hinv'
  match c, hinv', hvalida with
  | .crearNuevaJugada u, _, _ => rfl
  | .crearNuevaJugadaRef true u inv, hvacia, ⟨⟨i, hu⟩, hinv⟩ =>
      exact absurd (hu.symm.trans (hinv.symm.trans hvacia.symm)) (huid i)
  | .crearNuevaJugadaRef false u inv, hvacia, ⟨_, hne⟩ =>
      exact absurd hvacia.symm hne

omit [DecidableEq ι] in
/-- A game that is addressed to somebody else has been created to invite him. -/
theorem Anotado.invita (h : Anotado uid s r) {g : String} {j : Jugada}
    (hj : Fiel r g j) (hinv : j.invitacionID ≠ "")
    (hajena : j.jugadorUnoID ≠ j.invitacionID) :
    r g = some (.crearNuevaJugadaRef false j.jugadorUnoID j.invitacionID) := by
  obtain ⟨c, hc, huno, hinv'⟩ := hj
  have hvalida := h.valida g c hc
  rw [huno, hinv'] at hajena
  rw [hc, huno, hinv']
  rw [hinv'] at hinv
  match c, hinv, hajena, hvalida with
  | .crearNuevaJugada u, hno, _, _ => exact absurd rfl hno
  | .crearNuevaJugadaRef true u inv, _, hno, ⟨_, hinv⟩ =>
      exact absurd hinv.symm hno
  | .crearNuevaJugadaRef false u inv, _, _, _ => rfl

theorem Anotado.mostrada (h : Anotado uid s r) {g : String} {j : Jugada}
    (hj : Mostrada s g j) : Fiel r g j := by
  rcases hj with hserver | ⟨i, hvista⟩
  · exact h.copias.server g j hserver
  · exact h.copias.vista (deCreacion_fiel r)
      (fun g j hadd => h.altas g j (h.enviado i hadd)) g j hvista

omit [DecidableEq ι] in
/-- A free search claims what its reply shows. -/
theorem Anotado.reclama (h : Anotado uid s r) (huid : ∀ i, uid i ≠ "") {i : ι}
    {e : Suceso} {g : String} {j : Jugada}
    (hj : .reclamar g j ∈ programa.issues s (.event i e)) :
    ∃ v, r g = some (.crearNuevaJugada v) ∧ v ≠ (s.client i).busca.uid := by
  obtain ⟨⟨a', ws⟩, hreact, hws⟩ := Program.of_mem_issues hj
  have hr : react s.server (programa.view s i) (s.client i) e =
    some (a', ws) := hreact
  cases e with
  | busca e =>
      obtain ⟨-, hbusca, -⟩ := react_busca hr
      obtain ⟨-, t, ht, hcierra⟩ := FindGame.react_eq_some hbusca
      obtain ⟨-, rfl⟩ := Prod.mk.inj hcierra
      obtain ⟨docs, p, hespera, hp, rfl⟩ :=
        ((FindGame.atiende_writes ht).1 _ hws).reclamar_eq
      have hconviene := List.find?_some hp
      simp only [FindGame.Conviene, Bool.and_eq_true, decide_eq_true_eq]
        at hconviene
      have hfiel := h.copias.docs i docs hespera p
        (List.mem_of_find?_eq_some hp)
      exact ⟨p.2.jugadorUnoID, h.libre huid hfiel hconviene.1, hconviene.2⟩
  | juega e =>
      rcases juega_escribe hr (.reclamar g j) hws with ⟨_, _, hw⟩ | ⟨_, _, hw⟩
      · cases hw
      · cases hw
  | cancelarJugada g' =>
      obtain ⟨-, rfl, -⟩ := react_cancelarJugada hr
      cases List.mem_singleton.mp hws

/-- The listener of the invitations looks at the games that are shown to it. -/
theorem Anotado.avisa (h : Anotado uid s r) {m : Transision}
    {docs : List (String × Jugada)} (hm : m.uid ≠ "")
    (hdocs : ∀ p ∈ docs, Mostrada s p.1 p.2 ∧ p.2.invitacionID = m.uid) :
    m.onEvent (some docs) = Transision.sigue m ∨
      ∃ g v, (m.onEvent (some docs)).state.jugadaId = some g ∧
        r g = some (.crearNuevaJugadaRef false v m.uid) ∧ v ≠ m.uid := by
  cases hp : Transision.encontrada m.uid docs with
  | none =>
      left
      simp only [Transision.onEvent, Option.bind_some, hp]
  | some p =>
      right
      obtain ⟨g, j⟩ := p
      obtain ⟨hmostrada, hinv⟩ := hdocs _ (List.mem_of_find?_eq_some hp)
      have hpendiente := List.find?_some hp
      simp only [Transision.pendiente, Bool.and_eq_true, decide_eq_true_eq]
        at hpendiente hinv hmostrada
      have hajena : j.jugadorUnoID ≠ m.uid := hpendiente.1.1.1
      refine ⟨g, j.jugadorUnoID, ?_, ?_, hajena⟩
      · simp only [Transision.onEvent, Option.bind_some, hp]
        split
        · rfl
        · rfl
      · rw [← hinv]
        refine h.invita (h.mostrada hmostrada) ?_ ?_
        · rw [hinv]
          exact hm
        · rw [hinv]
          exact hajena

theorem Anotado.separados (h : Anotado uid s r) (huid : ∀ i, uid i ≠ "") :
    Separados s r where
  altas := h.altas
  mostrada := fun _ _ => h.mostrada
  copias := h.copias
  reclama := fun _ _ _ _ => h.reclama huid
  avisa := fun _ _ => h.avisa

end Steps

/-! ## Runs -/

omit [DecidableEq ι] in
theorem anotado_inicial (uid juego : ι → String)
    (users : String → Option User) :
    Anotado uid (inicial uid juego users) fun _ => none where
  usuario := fun _ => rfl
  enviado := fun _ => List.Subset.refl _
  altas := fun _ _ hj => absurd hj List.not_mem_nil
  issued := nofun
  valida := nofun
  copias := copias_inicial _ uid juego users

/-- The run of the screens, with the creations noted. -/
abbrev stepAnotado : Estado ι × Altas → Paso ι → Option (Estado ι × Altas) :=
  Runs.ghost programa.step anota

theorem sinRepetir_of_step {p q : Estado ι × Altas} {a : Paso ι}
    (hstep : stepAnotado p a = some q) (hq : SinRepetir q.1) :
    SinRepetir p.1 := by
  obtain ⟨hstep', -⟩ := Runs.ghost_eq_some hstep
  unfold SinRepetir at hq
  rw [Program.step_issued hstep', List.filterMap_append] at hq
  exact (List.nodup_append.mp hq).1

/-- What is noted after a run is what was noted before, and more. -/
theorem Anotado.run {uid : ι → String} {p q : Estado ι × Altas}
    {acts : List (Paso ι)} (h : Anotado uid p.1 p.2)
    (hinv : ∀ a ∈ acts, Invitado a)
    (hrun : Runs.run stepAnotado p acts = some q) (hids : SinRepetir q.1) :
    Anotado uid q.1 q.2 ∧ ∀ g c, p.2 g = some c → q.2 g = some c := by
  have hsin := (Runs.Along.of_end (fun _ _ _ => sinRepetir_of_step) hrun hids).2
  refine Runs.invariant
    (I := fun q => Anotado uid q.1 q.2 ∧ ∀ g c, p.2 g = some c → q.2 g = some c)
    ?_ ⟨h, fun _ _ hc => hc⟩ ((Runs.Along.of_mem hinv).and hsin) hrun
  rintro q a q' ⟨hq, hcrece⟩ ⟨hinv, hsin⟩ hstep
  obtain ⟨hstep', hghost⟩ := Runs.ghost_eq_some hstep
  rw [hghost]
  refine ⟨hq.step hinv hstep' (hsin q' hstep), fun g c hc => ?_⟩
  exact hq.crece hstep' (hsin q' hstep) (hcrece g c hc)

/-- In every state of a run of any number of devices the modes are apart, and
what has been noted of a creation is never changed. -/
theorem modos_separados {uid juego : ι → String}
    {users : String → Option User} {acts : List (Paso ι)} {s : Estado ι}
    {r : Altas} (huid : ∀ i, uid i ≠ "") (hinv : ∀ a ∈ acts, Invitado a)
    (hrun : Runs.run stepAnotado (inicial uid juego users, fun _ => none) acts =
      some (s, r)) (hids : SinRepetir s) :
    ∀ xs ys s₁ r₁, acts = xs ++ ys →
      Runs.run stepAnotado (inicial uid juego users, fun _ => none) xs =
        some (s₁, r₁) →
      Separados s₁ r₁ ∧ ∀ g c, r₁ g = some c → r g = some c := by
  rintro xs ys s₁ r₁ rfl hxs
  rw [Runs.run_append, hxs, Option.bind_some] at hrun
  have hids₁ : SinRepetir s₁ :=
    (Runs.Along.of_end (fun _ _ _ => sinRepetir_of_step) hrun hids).1
  obtain ⟨h₁, -⟩ := (anotado_inicial uid juego users).run
    (fun a ha => hinv a (List.mem_append_left ys ha)) hxs hids₁
  refine ⟨h₁.separados huid, ?_⟩
  exact (h₁.run (fun a ha => hinv a (List.mem_append_right xs ha)) hrun hids).2

/-- `a` searches and creates `g`, `b` invites `c` to `h`, and `c` searches
instead and claims `g`. -/
def tresModos : List (Paso (Trio)) :=
  creaAna ++ [.event .blas (.busca (.onCreate (.Invita "c" "h"))), .arrive .blas] ++
    encuentra .carla ++ reclamaG .carla

theorem modos_separados_tresModos :
    ∃ s r, Runs.run stepAnotado
        (inicial deTres (fun _ => "g") fun _ => none, fun _ => none)
        tresModos = some (s, r) ∧
      r "g" = some (.crearNuevaJugada "a") ∧
      r "h" = some (.crearNuevaJugadaRef false "b" "c") ∧ Separados s r := by
  have hvalor : (Runs.run stepAnotado
      (inicial deTres (fun _ => "g") fun _ => none, fun _ => none)
      tresModos).map (fun p => (p.2 "g", p.2 "h", decide (SinRepetir p.1))) =
      some (some (.crearNuevaJugada "a"),
        some (.crearNuevaJugadaRef false "b" "c"), true) := by
    decide
  obtain ⟨⟨s, r⟩, hrun, h⟩ := Option.map_eq_some_iff.mp hvalor
  obtain ⟨hg, h⟩ := Prod.mk.inj h
  obtain ⟨hh, hids⟩ := Prod.mk.inj h
  refine ⟨s, r, hrun, hg, hh, ?_⟩
  exact (modos_separados (by decide) (by decide) hrun (of_decide_eq_true hids)
    tresModos [] s r (by rw [List.append_nil]) hrun).1

end Sala

end Tocate
