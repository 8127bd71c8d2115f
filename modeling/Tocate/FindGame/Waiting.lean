import Tocate.FindGame.Occupied

/-!
# A game that nobody waits in

When the search screen is left, `onStop` deletes the one game that the field
names.  A game whose creation is still under way then, or whose id the field
has lost, stays behind and is found by the next search.

What is remembered of a run is which games the screen of one device has created,
and whether it has been left.
-/

namespace Tocate

namespace FindGame

/-- The screen is up, no match has been started, and none is due. -/
def SinJugar (f : FindGame) : Prop :=
  f.caida = false ∧ f.handler = 0 ∧ f.empezadas = []

instance (f : FindGame) : Decidable f.SinJugar :=
  inferInstanceAs (Decidable (_ ∧ _ ∧ _))

@[simp] theorem quitaListener_crearInv (f : FindGame) :
    f.quitaListener.crearInv = f.crearInv := by
  unfold quitaListener
  split
  · rfl
  · rfl

theorem onStop_crearInv (f : FindGame) :
    f.onStop.state.crearInv = f.crearInv := by
  rw [onStop_state]
  dsimp only
  split
  · rfl
  · exact quitaListener_crearInv _

section Changes

variable {db : BaseDatos} {f f' : FindGame} {e : Suceso}

/-- A match that has been started, or is due, stays so. -/
theorem Cambio.sinJugar (h : Cambio db f e f') (hhandler : f'.handler = 0)
    (hempezadas : f'.empezadas = []) : f.handler = 0 ∧ f.empezadas = [] := by
  cases h with
  | run hdue =>
      rw [f.run_empezadas] at hempezadas
      exact absurd hempezadas (List.append_ne_nil_of_right_ne_nil _ nofun)
  | avisa n j g eventos heventos hdos hreg hfull =>
      exact absurd hhandler (Nat.succ_ne_zero _)
  | onStop hiniciada =>
      rw [f.onStop_handler] at hhandler
      rw [f.onStop_empezadas] at hempezadas
      exact ⟨hhandler, hempezadas⟩
  | _ => exact ⟨hhandler, hempezadas⟩

/-- Only a game for a link sets `crearInv`. -/
theorem Cambio.crearInv (h : Cambio db f e f')
    (hno : ∀ nueva, e ≠ .onCreate (.cearDynamickLink nueva))
    (hcrear : f.crearInv = false) : f'.crearInv = false := by
  cases h with
  | cearDynamickLink nueva hespera => exact absurd rfl (hno nueva)
  | pLibre hespera => rfl
  | Invita IDusuario nueva hespera => rfl
  | onBackPressed hiniciada => rfl
  | run hdue =>
      exact (quitaListener_crearInv { f with handler := f.handler - 1 }).trans
        hcrear
  | onStop hiniciada => exact f.onStop_crearInv.trans hcrear
  | _ => exact hcrear

variable {w : Escritura} {ok : Bool}

/-- The outcome of a write starts a match or leaves what is due alone. -/
theorem Confirma.sinJugar (h : Confirma f w ok f')
    (hhandler : f'.handler = 0) (hempezadas : f'.empezadas = []) :
    f.handler = 0 ∧ f.empezadas = [] := by
  cases h with
  | entra _ g hune =>
      exact absurd hempezadas (List.append_ne_nil_of_right_ne_nil _ nofun)
  | _ => exact ⟨hhandler, hempezadas⟩

theorem Confirma.crearInv (h : Confirma f w ok f') :
    f'.crearInv = f.crearInv := by
  cases h with
  | entra _ g hune => exact quitaListener_crearInv f
  | _ => rfl

/-- A claim that has been confirmed has started a match. -/
theorem Confirma.reclamada (h : Confirma f w true f')
    (hcaida : f.caida = false) (hw : w.reclamada ≠ none) :
    f'.empezadas ≠ [] := by
  obtain ⟨g, hg⟩ := Option.ne_none_iff_exists'.mp hw
  obtain ⟨j, rfl⟩ := Escritura.reclamada_eq hg
  cases h with
  | entra _ g' hune => exact List.append_ne_nil_of_right_ne_nil _ nofun
  | nada _ _ hno hborra => exact absurd (hno rfl).1 nofun
  | caida _ _ hcae =>
      rw [hcae] at hcaida
      cases hcaida

end Changes

end FindGame

/-- A claim is never refused. -/
theorem BaseDatos.aplicar_reclamada {w : Escritura} (h : w.reclamada ≠ none)
    (db : BaseDatos) : (db.aplicar w).2 = true := by
  obtain ⟨g, hg⟩ := Option.ne_none_iff_exists'.mp h
  obtain ⟨j, rfl⟩ := Escritura.reclamada_eq hg
  rfl

namespace Sala

open Cloud

variable {ι : Type*} [DecidableEq ι]

/-- The games that the search screen of a device has created, and whether the
screen has been left. -/
structure Salida where
  propias : List String := []
  dejada : Bool := false
deriving DecidableEq, Repr

/-- A game counts from the moment the server has it. -/
def anotaSalida (i : ι) (s : Estado ι) : Paso ι → Salida → Salida
  | .event k (.busca .onStart), o =>
      if k = i then { o with dejada := false } else o
  | .event k (.busca .onStop), o =>
      if k = i then { o with dejada := true } else o
  | .arrive k, o =>
      match s.outbox k with
      | .addJugada g _ :: _ =>
          if k = i ∧ s.server.creador g = none then
            { o with propias := o.propias ++ [g] }
          else o
      | _ => o
  | _, o => o

/-- Once the screen has been left without a match and everything asked for has
been answered, no game that it has created waits for a second player. -/
def SinFantasmas (i : ι) (p : Estado ι × Salida) : Prop :=
  p.2.dejada = true → (p.1.client i).busca.SinJugar →
    (p.1.client i).busca.espera = .nada → p.1.outbox i = [] →
      p.1.acks i = [] →
        ∀ g ∈ p.2.propias, ∀ j ∈ p.1.server.jugadas g, j.jugadorDosID ≠ ""

/-- No match has been started, none is due and none has been claimed. -/
def SinCita (s : Estado ι) (i : ι) : Prop :=
  (s.client i).busca.SinJugar ∧ ∀ w ∈ pendientes s i, w.reclamada = none

/-- The screen stops only when the field names whatever game of its own still
waits, and no game of its own reaches the server while it is left. -/
structure Recoge (i : ι) (p : Estado ι × Salida) (a : Paso ι) : Prop where
  onStop : a = .event i (.busca .onStop) → SinCita p.1 i →
    ∀ g ∈ p.2.propias, ∀ j ∈ p.1.server.jugadas g, j.jugadorDosID = "" →
      ((p.1.client i).busca.jugadaId = g ∧ g ≠ "") ∨
        .deleteJugada g ∈ p.1.outbox i
  arrive : a = .arrive i → p.2.dejada = true → SinCita p.1 i →
    ∀ w ∈ (p.1.outbox i).head?, ∀ g ∈ w.crea, p.1.server.creador g ≠ none

section Decidable

instance (i : ι) (p : Estado ι × Salida) : Decidable (SinFantasmas i p) :=
  inferInstanceAs (Decidable (_ = true → _ → _ → _ = [] → _ = [] →
    ∀ g ∈ p.2.propias, ∀ j ∈ p.1.server.jugadas g, j.jugadorDosID ≠ ""))

omit [DecidableEq ι] in
instance (s : Estado ι) (i : ι) : Decidable (SinCita s i) :=
  inferInstanceAs (Decidable (_ ∧ ∀ w ∈ pendientes s i, w.reclamada = none))

instance (i : ι) (p : Estado ι × Salida) (a : Paso ι) :
    Decidable (Recoge i p a) :=
  decidable_of_iff (_ ∧ _)
    ⟨fun h => ⟨h.1, h.2⟩, fun h => ⟨h.onStop, h.arrive⟩⟩

end Decidable

/-- What holds along a run in which the screen of device `i` stops in time. -/
structure Vigilada (i : ι) (s : Estado ι) (o : Salida) : Prop where
  ocupadas : Ocupadas s
  creadas : Creadas s
  uid : ∀ k, (s.client k).busca.uid ≠ ""
  sinEnlace : (s.client i).busca.crearInv = false
  propias : ∀ g ∈ o.propias, s.server.creador g ≠ none
  reclamos : ∀ p ∈ s.acks i, p.1.reclamada ≠ none → p.2 = true
  dejada : o.dejada = true → (s.client i).busca.SinJugar →
    (∃ w ∈ pendientes s i, w.reclamada ≠ none) ∨
      ∀ g ∈ o.propias, ∀ j, s.server.jugadas g = some j →
        j.jugadorDosID = "" → .deleteJugada g ∈ s.outbox i

section Steps

variable {s s' : Estado ι} {o : Salida} {a : Paso ι} {i : ι}
  {t : FindGame.Turno}

/-- A game becomes one of the screen's own as it is created. -/
theorem propias_anotaSalida {g : String}
    (hg : g ∈ (anotaSalida i s a o).propias) :
    g ∈ o.propias ∨ ∃ j ws, a = .arrive i ∧
      s.outbox i = .addJugada g j :: ws ∧ s.server.creador g = none := by
  unfold anotaSalida at hg
  split at hg
  · split at hg
    · exact Or.inl hg
    · exact Or.inl hg
  · split at hg
    · exact Or.inl hg
    · exact Or.inl hg
  · split at hg
    next k g' j ws hbox =>
      split at hg
      next hnueva =>
        obtain ⟨rfl, hno⟩ := hnueva
        rcases List.mem_append.mp hg with hold | hnew
        · exact Or.inl hold
        · obtain rfl := List.mem_singleton.mp hnew
          exact Or.inr ⟨j, ws, rfl, hbox, hno⟩
      · exact Or.inl hg
    · exact Or.inl hg
  · exact Or.inl hg

/-- The screen is left by stopping. -/
theorem dejada_anotaSalida (h : (anotaSalida i s a o).dejada = true) :
    o.dejada = true ∨ a = .event i (.busca .onStop) := by
  unfold anotaSalida at h
  split at h
  · split at h
    · cases h
    · exact Or.inl h
  · split at h
    next hk =>
      subst hk
      exact Or.inr rfl
    · exact Or.inl h
  · split at h
    · split at h
      · exact Or.inl h
      · exact Or.inl h
    · exact Or.inl h
  · exact Or.inl h

/-- A game that waits after a step has been waiting, or is new. -/
theorem Ocupadas.esperaba (h : Ocupadas s) (hstep : programa.step s a = some s')
    {g : String} {j : Jugada} (hcreador : s.server.creador g ≠ none)
    (hj : s'.server.jugadas g = some j) (hdos : j.jugadorDosID = "") :
    s.server.jugadas g = some j := by
  rcases Program.step_flight hstep with ⟨k, w, ws, rfl, hbox, rfl⟩ |
    ⟨hserver, -⟩
  · exact BaseDatos.espera_aplicar (h.outbox k w (mem_of_eq_cons hbox)) hcreador
      hj hdos
  · rwa [hserver] at hj

/-- The deletion of a game that waits stays in flight. -/
theorem borrada_step (hstep : programa.step s a = some s') {g : String}
    {j : Jugada} (hj : s'.server.jugadas g = some j)
    (hborra : .deleteJugada g ∈ s.outbox i) : .deleteJugada g ∈ s'.outbox i := by
  rcases Program.mem_outbox_step hstep hborra with hsigue | ⟨ws, -, -, hserver⟩
  · exact hsigue
  · rw [hserver] at hj
    simp [programa, BaseDatos.aplicar] at hj

omit [DecidableEq ι] in
/-- `onStop` deletes the game in the field. -/
theorem Atiende.borra (h : Atiende s s' i .onStop t)
    (hcrear : (s.client i).busca.crearInv = false)
    (hid : (s.client i).busca.jugadaId ≠ "") :
    .deleteJugada (s.client i).busca.jugadaId ∈ s'.outbox i := by
  obtain ⟨-, ⟨⟩⟩ := Option.ite_none_right_eq_some.mp h.atiende
  have hno : ¬((s.client i).busca.crearInv = true ∨
      (s.client i).busca.jugadaId = "") := by
    rw [hcrear]
    exact not_or.mpr ⟨nofun, hid⟩
  rw [h.outbox, FindGame.onStop_writes, if_neg hno]
  exact List.mem_append_right _ (List.mem_singleton_self _)

/-- The search screen of device `i` handles an event. -/
theorem Vigilada.atiende (h : Vigilada i s o) {e : FindGame.Suceso}
    (hok : Recoge i (s, o) (.event i (.busca e)))
    (hstep : programa.step s (.event i (.busca e)) = some s')
    (hat : Atiende s s' i e t)
    (hdejada : (anotaSalida i s (.event i (.busca e)) o).dejada = true)
    (hsin : (s'.client i).busca.SinJugar) :
    (∃ w ∈ pendientes s' i, w.reclamada ≠ none) ∨
      ∀ g ∈ o.propias, ∀ j, s'.server.jugadas g = some j →
        j.jugadorDosID = "" → .deleteJugada g ∈ s'.outbox i := by
  have hantes : (s.client i).busca.SinJugar := by
    obtain ⟨-, hhandler, hempezadas⟩ := hsin
    rw [hat.busca] at hhandler hempezadas
    exact ⟨hat.viva, (FindGame.atiende_cambio hat.atiende).sinJugar hhandler
      hempezadas⟩
  have hpend : ∀ w ∈ pendientes s i, w ∈ pendientes s' i := by
    intro w hw
    rw [hat.pendientes]
    exact List.mem_append_left _ hw
  by_cases hcita : ∀ w ∈ pendientes s i, w.reclamada = none
  · right
    intro g hg j hj hdos
    have hj' := h.ocupadas.esperaba hstep (h.propias g hg) hj hdos
    have hsigue := borrada_step (i := i) hstep hj
    rcases dejada_anotaSalida hdejada with hya | hpara
    · rcases h.dejada hya hantes with ⟨w, hw, hreclama⟩ | hborra
      · exact absurd (hcita w hw) hreclama
      · exact hsigue (hborra g hg j hj' hdos)
    · cases hpara
      rcases hok.onStop rfl ⟨hantes, hcita⟩ g hg j hj' hdos with ⟨rfl, hid⟩ | hborra
      · exact hat.borra h.sinEnlace hid
      · exact hsigue hborra
  · left
    push Not at hcita
    obtain ⟨w, hw, hreclama⟩ := hcita
    exact ⟨w, hpend w hw, hreclama⟩

/-- The search screen of device `i` is told the outcome of a write. -/
theorem Vigilada.confirma (h : Vigilada i s o) {w : Escritura} {ok : Bool}
    (hstep : programa.step s (.confirm i) = some s') (hsabe : Sabe s s' i w ok)
    (hdejada : o.dejada = true) (hsin : (s'.client i).busca.SinJugar) :
    (∃ w ∈ pendientes s' i, w.reclamada ≠ none) ∨
      ∀ g ∈ o.propias, ∀ j, s'.server.jugadas g = some j →
        j.jugadorDosID = "" → .deleteJugada g ∈ s'.outbox i := by
  have hack := FindGame.ack_confirma (s.client i).busca w ok
  obtain ⟨hviva, hhandler, hempezadas⟩ := hsin
  rw [hsabe.busca] at hviva hhandler hempezadas
  have hcaida : (s.client i).busca.caida = false :=
    hack.caida_eq.symm.trans hviva
  rcases h.dejada hdejada
    ⟨hcaida, hack.sinJugar hhandler hempezadas⟩ with ⟨v, hv, hreclama⟩ | hborra
  · left
    rw [hsabe.pendientes] at hv
    rcases List.mem_cons.mp hv with rfl | hrest
    · have hok := h.reclamos (v, ok) (mem_of_eq_cons hsabe.acks) hreclama
      simp only at hok
      subst hok
      exact absurd hempezadas (hack.reclamada hcaida hreclama)
    · exact ⟨v, hrest, hreclama⟩
  · right
    intro g hg j hj hdos
    have hj' := h.ocupadas.esperaba hstep (h.propias g hg) hj hdos
    exact borrada_step hstep hj (hborra g hg j hj' hdos)

/-- Nothing happens to the search screen of device `i`, but the server may
change. -/
theorem Vigilada.ajeno (h : Vigilada i s o) (hok : Recoge i (s, o) a)
    (hstep : programa.step s a = some s') (hajeno : Ajeno s s' i)
    (hdejada : o.dejada = true) (hsin : (s'.client i).busca.SinJugar) :
    (∃ w ∈ pendientes s' i, w.reclamada ≠ none) ∨
      ∀ g ∈ (anotaSalida i s a o).propias, ∀ j,
        s'.server.jugadas g = some j → j.jugadorDosID = "" →
          .deleteJugada g ∈ s'.outbox i := by
  rw [hajeno.busca] at hsin
  by_cases hcita : ∀ w ∈ pendientes s i, w.reclamada = none
  · right
    intro g hg j hj hdos
    rcases propias_anotaSalida hg with hpropia | ⟨k, ws, rfl, hbox, hno⟩
    · have hj' := h.ocupadas.esperaba hstep (h.propias g hpropia) hj hdos
      rcases h.dejada hdejada hsin with ⟨w, hw, hreclama⟩ | hborra
      · exact absurd (hcita w hw) hreclama
      · exact borrada_step hstep hj (hborra g hpropia j hj' hdos)
    · have hhead : .addJugada g k ∈ (s.outbox i).head? := by
        rw [hbox]
        rfl
      exact absurd hno (hok.arrive rfl hdejada ⟨hsin, hcita⟩ _ hhead g rfl)
  · left
    push Not at hcita
    obtain ⟨w, hw, hreclama⟩ := hcita
    obtain ⟨ws, hws, -⟩ := hajeno.pendientes
    refine ⟨w, ?_, hreclama⟩
    rw [hws]
    exact List.mem_append_left _ hw

theorem Vigilada.step (h : Vigilada i s o)
    (hmodo : ∀ nueva,
      a ≠ .event i (.busca (.onCreate (.cearDynamickLink nueva))))
    (hok : Recoge i (s, o) a) (hstep : programa.step s a = some s') :
    Vigilada i s' (anotaSalida i s a o) where
  ocupadas := h.ocupadas.step h.creadas h.uid hstep
  creadas := h.creadas.step hstep
  uid := by
    intro k
    rw [step_uid hstep]
    exact h.uid k
  sinEnlace := by
    rcases step_busca hstep i with ⟨e, t, rfl, hat⟩ | ⟨w, ok, rfl, hsabe⟩ |
      ⟨-, -, hajeno⟩
    · rw [hat.busca]
      refine (FindGame.atiende_cambio hat.atiende).crearInv ?_ h.sinEnlace
      rintro nueva rfl
      exact hmodo nueva rfl
    · rw [hsabe.busca, (FindGame.ack_confirma _ w ok).crearInv]
      exact h.sinEnlace
    · rw [hajeno.busca]
      exact h.sinEnlace
  propias := by
    intro g hg
    rcases propias_anotaSalida hg with hold | ⟨j, ws, rfl, hbox, hno⟩
    · obtain ⟨c, hc⟩ := Option.ne_none_iff_exists'.mp (h.propias g hold)
      rw [step_creador hstep hc]
      exact Option.some_ne_none c
    · obtain ⟨w, ws', hbox', rfl⟩ := Program.step_arrive hstep
      obtain ⟨rfl, -⟩ := List.cons_eq_cons.mp (hbox.symm.trans hbox')
      simp [programa, BaseDatos.aplicar, hno, BaseDatos.conCreador]
  reclamos := by
    intro p hp hreclama
    rcases (step_acks hstep i).2 p hp with hold | ⟨ws, -, -, hexito⟩
    · exact h.reclamos p hold hreclama
    · rw [hexito]
      exact BaseDatos.aplicar_reclamada hreclama _
  dejada := by
    intro hdejada hsin
    rcases step_busca hstep i with ⟨e, t, rfl, hat⟩ | ⟨w, ok, rfl, hsabe⟩ |
      ⟨hevento, -, hajeno⟩
    · refine (h.atiende hok hstep hat hdejada hsin).imp_right fun hborra g hg =>
        hborra g ?_
      rcases propias_anotaSalida hg with hold | ⟨_, _, heq, -⟩
      · exact hold
      · cases heq
    · exact h.confirma hstep hsabe hdejada hsin
    · rcases dejada_anotaSalida hdejada with hya | rfl
      · exact h.ajeno hok hstep hajeno hya hsin
      · exact absurd rfl (hevento .onStop)

end Steps

/-! ## Runs -/

omit [DecidableEq ι] in
theorem vigilada_inicial {uid : ι → String} (juego : ι → String)
    (users : String → Option User) (huid : ∀ k, uid k ≠ "") (i : ι) :
    Vigilada i (inicial uid juego users) {} where
  ocupadas := ocupadas_inicial uid juego users
  creadas := copias_inicial _ uid juego users
  uid := huid
  sinEnlace := rfl
  propias := List.forall_mem_nil _
  reclamos := List.forall_mem_nil _
  dejada := nofun

/-- No game of the screen is left waiting, in every run in which it stops in
time and creates no game for a link. -/
theorem sin_fantasmas {uid juego : ι → String} {users : String → Option User}
    {acts : List (Paso ι)} {p : Estado ι × Salida} (i : ι)
    (huid : ∀ k, uid k ≠ "")
    (hmodo : ∀ nueva,
      .event i (.busca (.onCreate (.cearDynamickLink nueva))) ∉ acts)
    (hrun : Runs.run (Runs.ghost programa.step (anotaSalida i))
      (inicial uid juego users, {}) acts = some p)
    (hok : Runs.Along (Runs.ghost programa.step (anotaSalida i)) (Recoge i)
      (inicial uid juego users, {}) acts) :
    SinFantasmas i p := by
  have hlibre : ∀ a ∈ acts, ∀ nueva,
      a ≠ .event i (.busca (.onCreate (.cearDynamickLink nueva))) := by
    rintro a ha nueva rfl
    exact hmodo nueva ha
  have hfinal := Runs.invariant
    (I := fun p : Estado ι × Salida => Vigilada i p.1 p.2) ?_
    (vigilada_inicial juego users huid i) (hok.and (Runs.Along.of_mem hlibre))
    hrun
  · intro hdejada hsin _ hbox hacks g hg j hj hdos
    rcases hfinal.dejada hdejada hsin with ⟨w, hw, -⟩ | hborra
    · unfold pendientes at hw
      rw [hbox, hacks] at hw
      cases hw
    · have hmem := hborra g hg j hj hdos
      rw [hbox] at hmem
      cases hmem
  · rintro p a q h ⟨hok, hmodo⟩ hstep
    obtain ⟨hstep', hghost⟩ := Runs.ghost_eq_some hstep
    rw [hghost]
    exact h.step hmodo hok hstep'

/-- `a` waits, and leaves. -/
def esperaYSale : List (Paso (Trio)) :=
  creaAna ++ [.event .ana (.busca .onStop), .arrive .ana, .confirm .ana]

theorem sin_fantasmas_seVa :
    ∃ p, Runs.run (Runs.ghost programa.step (anotaSalida .ana))
        (inicial deTres (fun _ => "g") fun _ => none, {}) esperaYSale =
          some p ∧
      p.2 = { propias := ["g"], dejada := true } ∧ SinFantasmas .ana p := by
  have hvalor : (Runs.run (Runs.ghost programa.step (anotaSalida .ana))
      (inicial deTres (fun _ => "g") fun _ => none, {}) esperaYSale).map
        Prod.snd = some { propias := ["g"], dejada := true } := by
    decide
  obtain ⟨p, hrun, hsalida⟩ := Option.map_eq_some_iff.mp hvalor
  refine ⟨p, hrun, hsalida, sin_fantasmas Trio.ana (by decide) ?_ hrun (by decide)⟩
  intro nueva hmem
  simp [esperaYSale, creaAna] at hmem

/-- `a` finds no game and leaves before the server has the new one. -/
def saleAntes : List (Paso (Trio)) :=
  [.event .ana (.busca (.onCreate .pLibre)), .event .ana (.busca .onStart),
    .event .ana (.busca (.responde [])), .event .ana (.busca (.onComplete ["g"])),
    .event .ana (.busca .onStop), .arrive .ana, .confirm .ana]

/-- The game of `a` waits, and `b` finds it. -/
theorem fantasma :
    (∃ p, Runs.run (Runs.ghost programa.step (anotaSalida .ana))
        (inicial deTres (fun _ => "g") fun _ => none, {}) saleAntes = some p ∧
      ¬SinFantasmas .ana p) ∧
    (Runs.run (Runs.ghost programa.step (anotaSalida .ana))
      (inicial deTres (fun _ => "g") fun _ => none, {})
        (saleAntes ++ encuentra .blas ++ reclamaG .blas ++ [.confirm .blas])).map
      (fun p => (p.1.client .blas).busca.empezadas) = some ["g"] := by
  refine ⟨?_, by decide⟩
  have hvalor : (Runs.run (Runs.ghost programa.step (anotaSalida .ana))
      (inicial deTres (fun _ => "g") fun _ => none, {}) saleAntes).map
        (fun p => decide (SinFantasmas .ana p)) = some false := by
    decide
  obtain ⟨p, hrun, hno⟩ := Option.map_eq_some_iff.mp hvalor
  exact ⟨p, hrun, of_decide_eq_false hno⟩

end Sala

end Tocate
