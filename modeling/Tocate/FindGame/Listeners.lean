import Tocate.FindGame.Steps
import Mathlib.Data.List.Nodup

/-!
# The listeners of a search screen

A screen listens to the games that it has created, each of them once, and reads
the document that a listener is sent without asking whether there is one.  When
it deletes a game of its own it has removed the listener first.
-/

namespace Tocate

namespace FindGame

theorem onStop_failed (f : FindGame) : f.onStop.failed = false := by
  unfold onStop
  dsimp only
  by_cases hcrear : f.crearInv = true
  · rw [if_pos hcrear]
    rfl
  · rw [if_neg hcrear]
    exact (apply_ite Cloud.Outcome.failed _ _ _).trans (ite_self false)

section Handlers

variable {db : BaseDatos} {f f' : FindGame} {e : Suceso} {t : Turno}

/-- Two handlers fail: the request for a game without an id, and the listener of
a game that is gone. -/
theorem atiende_failed (h : atiende db f e = some t) (hfailed : t.failed = true) :
    e = .onCreate (.pinvDirecta "") ∨
      e = .onEvent ∧ ∃ n g eventos, f.eventos = (n, none) :: eventos ∧
        (n, g) ∈ f.registros := by
  cases e with
  | onCreate tipo =>
      obtain ⟨-, ⟨⟩⟩ := Option.ite_none_right_eq_some.mp h
      cases tipo with
      | pLibre => cases hfailed
      | null => cases hfailed
      | cearDynamickLink nueva => cases hfailed
      | Invita IDusuario nueva => cases hfailed
      | pinvDirecta partidaID =>
          simp only [optenerTipoJugada, buscarJugadaRef] at hfailed
          split at hfailed
          next hvacia => exact Or.inl (by rw [hvacia])
          · cases hfailed
  | linkReception deepLink =>
      obtain ⟨-, ⟨⟩⟩ := Option.ite_none_right_eq_some.mp h
      unfold linkReception at hfailed
      split at hfailed
      · cases hfailed
      · cases hfailed
  | onComplete nuevas =>
      simp only [atiende] at h
      split at h
      next docs hespera =>
        obtain ⟨-, ⟨⟩⟩ := Option.ite_none_right_eq_some.mp h
        obtain ⟨ids, -, hids⟩ :=
          onComplete_eq docs nuevas { f with espera := .nada }
        rw [hids] at hfailed
        cases hfailed
      · cases h
  | onEvent =>
      simp only [atiende] at h
      split at h
      · cases h
      next n snap eventos hev =>
        split at h
        next hreg =>
          rw [← Option.some.inj h] at hfailed
          cases snap with
          | none =>
              obtain ⟨⟨m, g⟩, hr, rfl⟩ := List.mem_map.mp hreg
              exact Or.inr ⟨rfl, m, g, eventos, hev, hr⟩
          | some j =>
              simp only [onEvent] at hfailed
              split at hfailed
              · cases hfailed
              · cases hfailed
        · rw [← Option.some.inj h] at hfailed
          cases hfailed
  | emite n =>
      simp only [atiende] at h
      split at h
      · cases h
      · rw [← Option.some.inj h] at hfailed
        cases hfailed
  | onStop =>
      obtain ⟨-, ⟨⟩⟩ := Option.ite_none_right_eq_some.mp h
      rw [f.onStop_failed] at hfailed
      cases hfailed
  | responde docs =>
      obtain ⟨-, ⟨⟩⟩ := Option.ite_none_right_eq_some.mp h
      cases hfailed
  | noResponde =>
      obtain ⟨-, ⟨⟩⟩ := Option.ite_none_right_eq_some.mp h
      cases hfailed
  | run =>
      obtain ⟨-, ⟨⟩⟩ := Option.ite_none_right_eq_some.mp h
      cases hfailed
  | onStart =>
      obtain ⟨-, ⟨⟩⟩ := Option.ite_none_right_eq_some.mp h
      cases hfailed
  | onBackPressed =>
      obtain ⟨-, ⟨⟩⟩ := Option.ite_none_right_eq_some.mp h
      cases hfailed

/-- A screen that waits for a reply has waited since it was created. -/
theorem Cambio.esperaba (h : Cambio db f e f') (hespera : f'.espera ≠ .nada) :
    f.espera ≠ .nada := by
  cases h with
  | pLibre hantes => simp [hantes]
  | null hantes => simp [hantes]
  | responde docs hantes hdocs => simp [hantes]
  | run hhandler =>
      rw [f.run_espera] at hespera
      exact hespera
  | onStop hiniciada =>
      intro hantes
      rw [f.onStop_espera, hantes] at hespera
      exact hespera rfl
  | cearDynamickLink nueva hantes => exact absurd rfl hespera
  | Invita IDusuario nueva hantes => exact absurd rfl hespera
  | pinvDirecta partidaID hantes => exact absurd rfl hespera
  | linkReception deepLink g hantes hiniciada hg => exact absurd rfl hespera
  | noResponde hantes => exact absurd rfl hespera
  | onComplete docs nuevas hantes => exact absurd rfl hespera
  | _ => exact hespera

/-- The field names a game that the event asks for, or none, or what it named
before. -/
theorem Cambio.jugadaId (h : Cambio db f e f') :
    f'.jugadaId = f.jugadaId ∨ f'.jugadaId = "" ∨
      f.pide e = some f'.jugadaId := by
  cases h with
  | pinvDirecta partidaID hespera => exact Or.inr (Or.inr rfl)
  | linkReception deepLink g hespera hiniciada hg => exact hg.imp_right Or.inr
  | onComplete docs nuevas hespera =>
      simp only [FindGame.pide, hespera]
      cases (encontrada f.uid docs).map Prod.fst with
      | none => exact Or.inl rfl
      | some g => exact Or.inr (Or.inr rfl)
  | run hhandler => exact Or.inr (Or.inl f.run_jugadaId)
  | onStop hiniciada => exact Or.inl f.onStop_jugadaId
  | _ => exact Or.inl rfl

theorem Cambio.registros (h : Cambio db f e f') :
    f'.registros ⊆ f.registros := by
  cases h with
  | run hhandler =>
      exact quitaListener_subset { f with handler := f.handler - 1 }
  | onStop hiniciada => exact f.onStop_registros
  | _ => exact List.Subset.refl _

theorem Cambio.caida_eq (h : Cambio db f e f') : f'.caida = f.caida := by
  cases h with
  | run hhandler =>
      exact quitaListener_caida { f with handler := f.handler - 1 }
  | onStop hiniciada =>
      rw [onStop_state]
      dsimp only
      split
      · rfl
      · exact quitaListener_caida _
  | _ => rfl

/-- A screen asks for a game only while it waits for a reply. -/
theorem Cambio.esperaba_of_pide (h : Cambio db f e f') {g : String}
    (hpide : f.pide e = some g) : f.espera ≠ .nada := by
  cases h with
  | pinvDirecta partidaID hantes => simp [hantes]
  | linkReception deepLink g' hantes hiniciada hg => simp [hantes]
  | onComplete docs nuevas hantes => simp [hantes]
  | _ => cases hpide

end Handlers

/-! ## The listeners of a screen -/

section Listeners

variable (f : FindGame)

theorem quitaListener_sublist :
    f.quitaListener.registros.Sublist f.registros := by
  unfold quitaListener
  split
  · exact List.Sublist.refl _
  · exact List.filter_sublist

@[simp] theorem quitaListener_creados :
    f.quitaListener.creados = f.creados := by
  unfold quitaListener
  split
  · rfl
  · rfl

@[simp] theorem quitaListener_listenerRegistration :
    f.quitaListener.listenerRegistration = f.listenerRegistration := by
  unfold quitaListener
  split
  · rfl
  · rfl

/-- The listener that the field remembers is removed. -/
theorem notMem_quitaListener {n : ℕ} (hn : f.listenerRegistration = some n)
    (g : String) : (n, g) ∉ f.quitaListener.registros := by
  unfold quitaListener
  split
  next hnone => exact absurd (hn.symm.trans hnone) nofun
  next m hm =>
    obtain rfl : n = m := Option.some.inj (hn.symm.trans hm)
    simp

end Listeners

/-- The games that have been created without the screen having been told. -/
def concedidas (acks : List (Escritura × Bool)) : List String :=
  acks.filterMap fun p => if p.2 then p.1.crea else none

/-- `C` are the games that the screen has created, of `cs` it has not been told
yet.  It listens to each game once, the field remembers the listener of the game
that it names, and where a listener is about to be told that there is no game, the
game meets `R`. -/
structure Escucha (C R : String → Prop) (f : FindGame) (cs : List String) :
    Prop where
  numeros : (f.registros.map Prod.fst).Nodup
  cota : ∀ r ∈ f.registros, r.1 < f.creados
  eventos : ∀ p ∈ f.eventos, p.1 < f.creados ∧
    (p.2 = none → ∀ g, (p.1, g) ∈ f.registros → R g)
  oidas : (f.registros.map Prod.snd ++ cs).Nodup
  creadas : ∀ g ∈ f.registros.map Prod.snd ++ cs, C g
  campo : f.jugadaId ≠ "" → C f.jugadaId → f.jugadaId ∉ cs ∧
    ∀ n, (n, f.jugadaId) ∈ f.registros → f.listenerRegistration = some n

section Kept

variable {C R : String → Prop} {f f' : FindGame} {cs : List String}

/-- No listener is added. -/
theorem Escucha.quita (h : Escucha C R f cs) {cs' : List String}
    (hcs : cs'.Sublist cs) (hreg : f'.registros.Sublist f.registros)
    (hcreados : f'.creados = f.creados)
    (hlistener : f'.listenerRegistration = f.listenerRegistration)
    (heventos : ∀ p ∈ f'.eventos, p ∈ f.eventos ∨ p.1 < f.creados ∧
      (p.2 = none → ∀ g, (p.1, g) ∈ f.registros → R g))
    (hid : f'.jugadaId = f.jugadaId ∨ f'.jugadaId = "" ∨ ¬C f'.jugadaId) :
    Escucha C R f' cs' where
  numeros := h.numeros.sublist (hreg.map Prod.fst)
  cota := fun r hr => hcreados ▸ h.cota r (hreg.subset hr)
  eventos := by
    intro p hp
    obtain ⟨hlt, hnone⟩ := (heventos p hp).elim (h.eventos p) fun hnew => hnew
    exact ⟨hcreados ▸ hlt, fun hp g hg => hnone hp g (hreg.subset hg)⟩
  oidas := h.oidas.sublist ((hreg.map Prod.snd).append hcs)
  creadas := fun g hg =>
    h.creadas g (((hreg.map Prod.snd).append hcs).subset hg)
  campo := by
    intro hne hC
    rcases hid with hid | hid | hno
    · rw [hid] at hne hC ⊢
      obtain ⟨hcs', hn⟩ := h.campo hne hC
      refine ⟨fun hmem => hcs' (hcs.subset hmem), fun n hmem => ?_⟩
      rw [hlistener]
      exact hn n (hreg.subset hmem)
    · exact absurd hid hne
    · exact absurd hC hno

/-- Neither listeners nor snapshots change. -/
theorem Escucha.sigue (h : Escucha C R f cs)
    (hreg : f'.registros = f.registros) (hcreados : f'.creados = f.creados)
    (hlistener : f'.listenerRegistration = f.listenerRegistration)
    (heventos : f'.eventos = f.eventos)
    (hid : f'.jugadaId = f.jugadaId ∨ f'.jugadaId = "" ∨ ¬C f'.jugadaId) :
    Escucha C R f' cs :=
  h.quita (List.Sublist.refl _) (hreg ▸ List.Sublist.refl _) hcreados hlistener
    (fun _ hp => Or.inl (heventos ▸ hp)) hid

theorem Escucha.quitaListener (h : Escucha C R f cs) :
    Escucha C R f.quitaListener cs := by
  refine h.quita (List.Sublist.refl _) f.quitaListener_sublist
    f.quitaListener_creados f.quitaListener_listenerRegistration ?_ ?_
  · intro p hp
    rw [f.quitaListener_eventos] at hp
    exact Or.inl hp
  · exact Or.inl f.quitaListener_jugadaId

theorem Escucha.starGame (h : Escucha C R f cs) : Escucha C R f.starGame cs :=
  h.quitaListener.sigue rfl rfl rfl rfl (Or.inr (Or.inl rfl))

theorem Escucha.onStop (h : Escucha C R f cs) :
    Escucha C R f.onStop.state cs := by
  have hantes : Escucha C R
      { f with
        iniciada := false
        espera := if f.espera = .getDynamicLink then .nada else f.espera } cs :=
    h.sigue rfl rfl rfl rfl (Or.inl rfl)
  rw [onStop_state]
  dsimp only
  split
  · exact hantes
  · exact hantes.quitaListener

/-- A screen that deletes a game of its own listens to it no longer. -/
theorem Escucha.borra (h : Escucha C R f cs) {g : String}
    (hborra : f.borra .onStop = some g) (hC : C g) :
    g ∉ f.onStop.state.registros.map Prod.snd ++ cs := by
  obtain ⟨-, hid, rfl⟩ := borra_eq_some hborra
  obtain ⟨hcs, hn⟩ := h.campo hid hC
  have hcrear : ¬f.crearInv = true := by
    intro hcrear
    have hnada : f.borra .onStop = none := if_pos (Or.inl hcrear)
    exact absurd (hnada.symm.trans hborra) nofun
  intro hmem
  rcases List.mem_append.mp hmem with hreg | hpend
  · obtain ⟨⟨n, g⟩, hr, hg⟩ := List.mem_map.mp hreg
    obtain rfl : g = f.jugadaId := hg
    have hantes := hn n (f.onStop_registros hr)
    rw [onStop_state] at hr
    dsimp only at hr
    rw [if_neg hcrear] at hr
    exact notMem_quitaListener
      { f with
        iniciada := false
        espera := if f.espera = .getDynamicLink then .nada else f.espera }
      hantes f.jugadaId hr
  · exact hcs hpend

/-- A game that has been created is listened to. -/
theorem Escucha.esperarJugador {id : String} (h : Escucha C R f (id :: cs)) :
    Escucha C R (FindGame.esperarJugador { f with jugadaId := id }) cs where
  numeros := by
    simp only [FindGame.esperarJugador, List.map_append, List.map_cons,
      List.map_nil]
    refine List.nodup_append.mpr ⟨h.numeros, List.nodup_singleton _, ?_⟩
    rintro n hn m hm rfl
    obtain ⟨r, hr, rfl⟩ := List.mem_map.mp hn
    exact absurd (List.mem_singleton.mp hm) (Nat.ne_of_lt (h.cota r hr))
  cota := by
    intro r hr
    rcases List.mem_append.mp hr with hold | hnew
    · exact Nat.lt_succ_of_lt (h.cota r hold)
    · rw [List.mem_singleton.mp hnew]
      exact Nat.lt_succ_self _
  eventos := by
    intro p hp
    obtain ⟨hlt, hnone⟩ := h.eventos p hp
    refine ⟨Nat.lt_succ_of_lt hlt, fun hp g hg => ?_⟩
    rcases List.mem_append.mp hg with hold | hnew
    · exact hnone hp g hold
    -- the new listener has not been told anything yet
    · have heq := (Prod.mk.inj (List.mem_singleton.mp hnew)).1
      exact absurd heq (Nat.ne_of_lt hlt)
  oidas := by
    have hoidas := h.oidas
    simp only [FindGame.esperarJugador, List.map_append, List.map_cons,
      List.map_nil, List.append_assoc, List.singleton_append]
    exact hoidas
  creadas := by
    have hcreadas := h.creadas
    simp only [FindGame.esperarJugador, List.map_append, List.map_cons,
      List.map_nil, List.append_assoc, List.singleton_append]
    exact hcreadas
  campo := by
    intro _ _
    obtain ⟨-, hpend, hdist⟩ := List.nodup_append.mp h.oidas
    refine ⟨(List.nodup_cons.mp hpend).1, fun n hn => ?_⟩
    rcases List.mem_append.mp hn with hold | hnew
    · exact absurd rfl (hdist id (List.mem_map_of_mem hold) id
        List.mem_cons_self)
    · rw [(Prod.mk.inj (List.mem_singleton.mp hnew)).1]
      rfl

/-- The screen is told the outcome of a write. -/
theorem Escucha.ack {w : Escritura} {ok : Bool}
    {acks : List (Escritura × Bool)}
    (h : Escucha C R f (concedidas ((w, ok) :: acks))) :
    Escucha C R (f.ack w ok) (concedidas acks) := by
  have hsub : (concedidas acks).Sublist (concedidas ((w, ok) :: acks)) :=
    (List.sublist_cons_self _ _).filterMap _
  have hcs : Escucha C R f (concedidas acks) :=
    h.quita hsub (List.Sublist.refl _) rfl rfl (fun _ hp => Or.inl hp)
      (Or.inl rfl)
  have hconfirma := ack_confirma f w ok
  generalize f.ack w ok = f' at hconfirma ⊢
  cases hconfirma with
  | crea id j => exact h.esperarJugador
  | entra _ g hune => exact hcs.starGame
  | rechazada g u => exact hcs.sigue rfl rfl rfl rfl (Or.inl rfl)
  | borra g => exact hcs.sigue rfl rfl rfl rfl (Or.inr (Or.inl rfl))
  | nada _ _ hno hborra => exact hcs
  | caida _ _ hcaida => exact hcs

/-- An event asks for no game that the screen has created itself. -/
theorem Escucha.atiende {db : BaseDatos} {e : Suceso} {t : Turno}
    (h : Escucha C R f cs) (ht : atiende db f e = some t)
    (hpide : ∀ g, f.pide e = some g → ¬C g)
    (hausente : ∀ r ∈ f.registros, db.jugadas r.2 = none → R r.2) :
    Escucha C R t.state cs := by
  have hcambio := atiende_cambio ht
  have hid : t.state.jugadaId = f.jugadaId ∨ t.state.jugadaId = "" ∨
      ¬C t.state.jugadaId :=
    hcambio.jugadaId.imp_right fun h => h.imp_right (hpide _)
  generalize t.state = f' at hcambio hid
  cases hcambio with
  | emite n g hreg =>
      refine h.quita (List.Sublist.refl _) (List.Sublist.refl _) rfl rfl ?_ hid
      intro p hp
      rcases List.mem_append.mp hp with hold | hnew
      · exact Or.inl hold
      · obtain rfl := List.mem_singleton.mp hnew
        refine Or.inr ⟨h.cota _ hreg, fun hnone g' hg' => ?_⟩
        obtain ⟨-, rfl⟩ := Prod.mk.inj
          (List.inj_on_of_nodup_map h.numeros hreg hg' rfl)
        exact hausente _ hreg hnone
  | calla n snap eventos heventos hcalla =>
      refine h.quita (List.Sublist.refl _) (List.Sublist.refl _) rfl rfl ?_ hid
      exact fun p hp => Or.inl (heventos ▸ List.mem_cons_of_mem _ hp)
  | avisa n j g eventos heventos hdos hreg hfull =>
      refine h.quita (List.Sublist.refl _) (List.Sublist.refl _) rfl rfl ?_ hid
      exact fun p hp => Or.inl (heventos ▸ List.mem_cons_of_mem _ hp)
  | run hhandler =>
      have hantes : Escucha C R { f with handler := f.handler - 1 } cs :=
        h.sigue rfl rfl rfl rfl (Or.inl rfl)
      exact hantes.starGame
  | onStop hiniciada => exact h.onStop
  | _ => exact h.sigue rfl rfl rfl rfl hid

/-- A new game is granted to the screen. -/
theorem Escucha.concede (h : Escucha C R f cs) {g : String} (hC : C g)
    (hnueva : g ∉ f.registros.map Prod.snd ++ cs)
    (hid : f.jugadaId ≠ "" → f.jugadaId ≠ g) : Escucha C R f (cs ++ [g]) where
  numeros := h.numeros
  cota := h.cota
  eventos := h.eventos
  oidas := by
    rw [← List.append_assoc]
    refine List.nodup_append.mpr ⟨h.oidas, List.nodup_singleton g, ?_⟩
    rintro x hx y hy rfl
    rw [List.mem_singleton.mp hy] at hx
    exact hnueva hx
  creadas := by
    rw [← List.append_assoc]
    exact List.forall_mem_append.mpr
      ⟨h.creadas, List.forall_mem_singleton.mpr hC⟩
  campo := by
    intro hne hCid
    obtain ⟨hcs, hn⟩ := h.campo hne hCid
    refine ⟨fun hmem => ?_, hn⟩
    exact (List.mem_append.mp hmem).elim hcs
      fun hlast => hid hne (List.mem_singleton.mp hlast)

/-- More is known. -/
theorem Escucha.mono (h : Escucha C R f cs) {C' R' : String → Prop}
    (hC : ∀ g, C g → C' g) (hR : ∀ g, R g → R' g)
    (hid : f.jugadaId ≠ "" → C' f.jugadaId → C f.jugadaId) :
    Escucha C' R' f cs where
  numeros := h.numeros
  cota := h.cota
  eventos := fun p hp => (h.eventos p hp).imp_right
    fun hnone hp g hg => hR g (hnone hp g hg)
  oidas := h.oidas
  creadas := fun g hg => hC g (h.creadas g hg)
  campo := fun hne hC' => h.campo hne (hid hne hC')

end Kept

/-- The outcome of a write lets the field name a game that has been created, or
none, or what it named before. -/
theorem Confirma.jugadaId {f f' : FindGame} {w : Escritura} {ok : Bool}
    (h : Confirma f w ok f') :
    f'.jugadaId = f.jugadaId ∨ f'.jugadaId = "" ∨
      ok = true ∧ w.crea = some f'.jugadaId := by
  cases h with
  | crea id j => exact Or.inr (Or.inr ⟨rfl, rfl⟩)
  | entra _ g hune => exact Or.inr (Or.inl rfl)
  | borra g => exact Or.inr (Or.inl rfl)
  | _ => exact Or.inl rfl

/-- A screen that is told of a game begins to listen to it. -/
theorem oidas_ack (f : FindGame) (w : Escritura) (ok : Bool)
    (acks : List (Escritura × Bool)) :
    (f.ack w ok).registros.map Prod.snd ++ concedidas acks ⊆
      f.registros.map Prod.snd ++ concedidas ((w, ok) :: acks) := by
  have hsub : concedidas acks ⊆ concedidas ((w, ok) :: acks) :=
    ((List.sublist_cons_self _ _).filterMap _).subset
  have higual : ∀ {rs : List (ℕ × String)}, rs ⊆ f.registros →
      rs.map Prod.snd ++ concedidas acks ⊆
        f.registros.map Prod.snd ++ concedidas ((w, ok) :: acks) := fun hrs =>
    List.append_subset.mpr
      ⟨fun _ hg => List.mem_append_left _ (List.map_subset _ hrs hg),
        fun _ hg => List.mem_append_right _ (hsub hg)⟩
  have hconfirma := ack_confirma f w ok
  generalize f.ack w ok = f' at hconfirma ⊢
  cases hconfirma with
  | crea id j =>
      simp only [esperarJugador, List.map_append, List.map_cons, List.map_nil,
        List.append_assoc, List.singleton_append]
      exact List.Subset.refl _
  | entra _ g hune => exact higual f.quitaListener_subset
  | rechazada g u => exact higual (List.Subset.refl _)
  | borra g => exact higual (List.Subset.refl _)
  | nada _ _ hno hborra => exact higual (List.Subset.refl _)
  | caida _ _ hcaida => exact higual (List.Subset.refl _)

end FindGame

end Tocate
