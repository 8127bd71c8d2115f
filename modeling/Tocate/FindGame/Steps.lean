import Tocate.FindGame.Facts

/-!
# What a step makes of the search screen

One statement says which fields an event changes, and one what the callback of a
write does.  Whatever is proved about the fields along a run goes through these
two.
-/

namespace Tocate

/-- The call that creates a game. -/
inductive Creacion where
  | crearNuevaJugada (uid : String)
  | crearNuevaJugadaRef (crearJugada : Bool) (uid IDusuario : String)
deriving DecidableEq, Repr

namespace Creacion

def jugadorUnoID : Creacion → String
  | .crearNuevaJugada uid => uid
  | .crearNuevaJugadaRef _ uid _ => uid

def invitacionID : Creacion → String
  | .crearNuevaJugada _ => ""
  | .crearNuevaJugadaRef _ _ IDusuario => IDusuario

end Creacion

namespace FindGame

open Cloud

/-- The game that is full: the next snapshot shows its second player, and the
listener it is meant for is still registered. -/
def avisada (f : FindGame) : Option String :=
  match f.eventos with
  | (n, some j) :: _ =>
      if j.jugadorDosID = "" then none
      else (f.registros.find? fun r => r.1 = n).map Prod.snd
  | (_, none) :: _ => none
  | [] => none

/-- The screen after an event, up to the crash that an exception brings. -/
inductive Cambio (db : BaseDatos) (f : FindGame) : Suceso → FindGame → Prop where
  | pLibre (hespera : f.espera = .onCreate) :
      Cambio db f (.onCreate .pLibre)
        { f with espera := .get, crearInv := false }
  | null (hespera : f.espera = .onCreate) :
      Cambio db f (.onCreate .null) { f with espera := .getDynamicLink }
  | cearDynamickLink (nueva : String) (hespera : f.espera = .onCreate) :
      Cambio db f (.onCreate (.cearDynamickLink nueva))
        { f with espera := .nada, crearInv := true }
  | Invita (IDusuario nueva : String) (hespera : f.espera = .onCreate) :
      Cambio db f (.onCreate (.Invita IDusuario nueva))
        { f with espera := .nada, crearInv := false }
  | pinvDirecta (partidaID : String) (hespera : f.espera = .onCreate) :
      Cambio db f (.onCreate (.pinvDirecta partidaID))
        { f with espera := .nada, jugadaId := partidaID }
  | linkReception (deepLink : Option (List Char)) (g : String)
      (hespera : f.espera = .getDynamicLink) (hiniciada : f.iniciada = true)
      (hg : g = f.jugadaId ∨ f.pide (.linkReception deepLink) = some g) :
      Cambio db f (.linkReception deepLink)
        { f with espera := .nada, jugadaId := g }
  | responde (docs : List (String × Jugada)) (hespera : f.espera = .get)
      (hdocs : ∀ p ∈ docs,
        db.jugadas p.1 = some p.2 ∧ p.2.jugadorDosID = "") :
      Cambio db f (.responde docs) { f with espera := .onComplete docs }
  | noResponde (hespera : f.espera = .get) :
      Cambio db f .noResponde { f with espera := .nada }
  | onComplete (docs : List (String × Jugada)) (nuevas : List String)
      (hespera : f.espera = .onComplete docs) :
      Cambio db f (.onComplete nuevas)
        { f with
          espera := .nada
          jugadaId := ((encontrada f.uid docs).map Prod.fst).getD f.jugadaId }
  | emite (n : ℕ) (g : String) (hreg : (n, g) ∈ f.registros) :
      Cambio db f (.emite n)
        { f with eventos := f.eventos ++ [(n, db.jugadas g)] }
  | calla (n : ℕ) (snap : Option Jugada) (eventos : List (ℕ × Option Jugada))
      (heventos : f.eventos = (n, snap) :: eventos) (hcalla : f.avisada = none) :
      Cambio db f .onEvent { f with eventos := eventos }
  | avisa (n : ℕ) (j : Jugada) (g : String) (eventos : List (ℕ × Option Jugada))
      (heventos : f.eventos = (n, some j) :: eventos) (hdos : j.jugadorDosID ≠ "")
      (hreg : (n, g) ∈ f.registros) (hfull : f.avisada = some g) :
      Cambio db f .onEvent
        { f with eventos := eventos, handler := f.handler + 1 }
  | run (hhandler : 0 < f.handler) : Cambio db f .run f.run
  | onStart (hespera : f.espera ≠ .onCreate) :
      Cambio db f .onStart { f with iniciada := true }
  | onStop (hiniciada : f.iniciada = true) : Cambio db f .onStop f.onStop.state
  | onBackPressed (hiniciada : f.iniciada = true) :
      Cambio db f .onBackPressed f.onBackPressed

section Changes

variable {db : BaseDatos} {f : FindGame}

theorem cambio_onCreate (tipo : TipoPartida) (hespera : f.espera = .onCreate) :
    Cambio db f (.onCreate tipo) (optenerTipoJugada tipo f).state := by
  cases tipo with
  | pLibre => exact .pLibre hespera
  | null => exact .null hespera
  | cearDynamickLink nueva => exact .cearDynamickLink nueva hespera
  | Invita IDusuario nueva => exact .Invita IDusuario nueva hespera
  | pinvDirecta partidaID =>
      simp only [optenerTipoJugada, buscarJugadaRef_state]
      exact .pinvDirecta partidaID hespera

theorem cambio_linkReception (deepLink : Option (List Char))
    (hespera : f.espera = .getDynamicLink) (hiniciada : f.iniciada = true) :
    Cambio db f (.linkReception deepLink)
      (linkReception deepLink { f with espera := .nada }).state := by
  unfold linkReception
  split
  · exact .linkReception deepLink f.jugadaId hespera hiniciada (Or.inl rfl)
  next r resto hr =>
    simp only [buscarJugadaRef_state]
    refine .linkReception deepLink _ hespera hiniciada (Or.inr ?_)
    simp [pide, hr]

theorem cambio_onEvent {n : ℕ} {snap : Option Jugada}
    {eventos : List (ℕ × Option Jugada)}
    (heventos : f.eventos = (n, snap) :: eventos)
    (hreg : n ∈ f.registros.map Prod.fst) :
    Cambio db f .onEvent (onEvent snap { f with eventos := eventos }).state := by
  cases snap with
  | none => exact .calla n none eventos heventos (by simp [avisada, heventos])
  | some j =>
      by_cases hdos : j.jugadorDosID = ""
      · simp only [onEvent, hdos, ne_eq, not_true, if_false]
        refine .calla n (some j) eventos heventos ?_
        simp [avisada, heventos, hdos]
      · simp only [onEvent, hdos, ne_eq, not_false_eq_true, if_true]
        obtain ⟨r, hr, hn⟩ := List.mem_map.mp hreg
        have hsome : (f.registros.find? fun r => r.1 = n).isSome :=
          List.find?_isSome.mpr ⟨r, hr, by simpa using hn⟩
        obtain ⟨⟨m, g⟩, hfind⟩ := Option.isSome_iff_exists.mp hsome
        have hm : m = n := by simpa using List.find?_some hfind
        subst hm
        refine .avisa m j g eventos heventos hdos
          (List.mem_of_find?_eq_some hfind) ?_
        simp [avisada, heventos, hdos, hfind]

/-- Nothing reaches a listener that has been removed. -/
theorem avisada_of_not_registrado {n : ℕ} {snap : Option Jugada}
    {eventos : List (ℕ × Option Jugada)}
    (heventos : f.eventos = (n, snap) :: eventos)
    (hreg : n ∉ f.registros.map Prod.fst) : f.avisada = none := by
  have hfind : (f.registros.find? fun r => r.1 = n) = none := by
    refine List.find?_eq_none.mpr fun r hr hn => hreg ?_
    exact List.mem_map.mpr ⟨r, hr, by simpa using hn⟩
  cases snap with
  | none => simp [avisada, heventos]
  | some j => simp [avisada, heventos, hfind]

/-- What an event makes of the screen. -/
theorem atiende_cambio {e : Suceso} {t : Turno} (h : atiende db f e = some t) :
    Cambio db f e t.state := by
  cases e with
  | onCreate tipo =>
      obtain ⟨hespera, ⟨⟩⟩ := Option.ite_none_right_eq_some.mp h
      exact cambio_onCreate tipo hespera
  | linkReception deepLink =>
      obtain ⟨hespera, ⟨⟩⟩ := Option.ite_none_right_eq_some.mp h
      exact cambio_linkReception deepLink hespera.1 hespera.2
  | responde docs =>
      obtain ⟨hdocs, ⟨⟩⟩ := Option.ite_none_right_eq_some.mp h
      exact .responde docs hdocs.1 hdocs.2
  | noResponde =>
      obtain ⟨hespera, ⟨⟩⟩ := Option.ite_none_right_eq_some.mp h
      exact .noResponde hespera
  | onComplete nuevas =>
      simp only [atiende] at h
      split at h
      next docs hespera =>
        obtain ⟨-, ⟨⟩⟩ := Option.ite_none_right_eq_some.mp h
        obtain ⟨ids, -, hids⟩ :=
          onComplete_eq docs nuevas { f with espera := .nada }
        rw [hids]
        exact .onComplete docs nuevas hespera
      · cases h
  | emite n =>
      simp only [atiende] at h
      split at h
      · cases h
      next r hr =>
        rw [← Option.some.inj h]
        have hn : r.1 = n := by simpa using List.find?_some hr
        subst hn
        exact .emite r.1 r.2 (List.mem_of_find?_eq_some hr)
  | onEvent =>
      simp only [atiende] at h
      split at h
      · cases h
      next n snap eventos hev =>
        split at h
        next hreg =>
          rw [← Option.some.inj h]
          exact cambio_onEvent hev hreg
        next hreg =>
          rw [← Option.some.inj h]
          exact .calla n snap eventos hev (avisada_of_not_registrado hev hreg)
  | run =>
      obtain ⟨hhandler, ⟨⟩⟩ := Option.ite_none_right_eq_some.mp h
      exact .run hhandler
  | onStart =>
      obtain ⟨hlista, ⟨⟩⟩ := Option.ite_none_right_eq_some.mp h
      exact .onStart hlista.1
  | onStop =>
      obtain ⟨hiniciada, ⟨⟩⟩ := Option.ite_none_right_eq_some.mp h
      exact .onStop hiniciada
  | onBackPressed =>
      obtain ⟨hlista, ⟨⟩⟩ := Option.ite_none_right_eq_some.mp h
      exact .onBackPressed hlista.1

section Callbacks

variable (f : FindGame)

theorem run_uid : f.run.uid = f.uid :=
  quitaListener_uid { f with handler := f.handler - 1 }

theorem run_espera : f.run.espera = f.espera :=
  quitaListener_espera { f with handler := f.handler - 1 }

theorem run_handler : f.run.handler = f.handler - 1 :=
  quitaListener_handler { f with handler := f.handler - 1 }

theorem run_empezadas : f.run.empezadas = f.empezadas ++ [f.jugadaId] := rfl

theorem run_jugadaId : f.run.jugadaId = "" := rfl

/-- Stopping changes at most the listener, the reply that is waited for and
that the activity is started. -/
theorem onStop_uid : f.onStop.state.uid = f.uid := by
  rw [onStop_state]
  dsimp only
  split
  · rfl
  · exact quitaListener_uid _

theorem onStop_espera : f.onStop.state.espera =
    if f.espera = .getDynamicLink then .nada else f.espera := by
  rw [onStop_state]
  dsimp only
  split
  · rfl
  · exact quitaListener_espera _

theorem onStop_handler : f.onStop.state.handler = f.handler := by
  rw [onStop_state]
  dsimp only
  split
  · rfl
  · exact quitaListener_handler _

theorem onStop_eventos : f.onStop.state.eventos = f.eventos := by
  rw [onStop_state]
  dsimp only
  split
  · rfl
  · exact quitaListener_eventos _

theorem onStop_jugadaId : f.onStop.state.jugadaId = f.jugadaId := by
  rw [onStop_state]
  dsimp only
  split
  · rfl
  · exact quitaListener_jugadaId _

theorem onStop_empezadas : f.onStop.state.empezadas = f.empezadas := by
  rw [onStop_state]
  dsimp only
  split
  · rfl
  · exact quitaListener_empezadas _

theorem quitaListener_subset : f.quitaListener.registros ⊆ f.registros := by
  unfold quitaListener
  split
  · exact List.Subset.refl _
  · exact List.filter_subset_self _

theorem onStop_registros : f.onStop.state.registros ⊆ f.registros := by
  rw [onStop_state]
  dsimp only
  split
  · exact List.Subset.refl _
  · exact quitaListener_subset
      { f with
        iniciada := false
        espera := if f.espera = .getDynamicLink then .nada else f.espera }

end Callbacks

/-- The signed-in user stays. -/
theorem Cambio.uid {e : Suceso} {f' : FindGame} (h : Cambio db f e f') :
    f'.uid = f.uid := by
  cases h with
  | run => exact run_uid f
  | onStop => exact onStop_uid f
  | _ => rfl

/-- The reply that is on its way shows games of the server. -/
theorem Cambio.espera {e : Suceso} {f' : FindGame} (h : Cambio db f e f')
    {docs : List (String × Jugada)} (hd : f'.espera = .onComplete docs) :
    f.espera = .onComplete docs ∨ ∀ p ∈ docs, db.jugadas p.1 = some p.2 := by
  cases h with
  | responde docs' hespera hdocs =>
      cases hd
      exact Or.inr fun p hp => (hdocs p hp).1
  | emite n g hreg => exact Or.inl hd
  | calla n snap eventos heventos hcalla => exact Or.inl hd
  | avisa n j g eventos heventos hdos hreg hfull => exact Or.inl hd
  | run hhandler => exact Or.inl (f.run_espera.symm.trans hd)
  | onStart hespera => exact Or.inl hd
  | onBackPressed hiniciada => exact Or.inl hd
  | onStop hiniciada =>
      left
      rw [onStop_espera] at hd
      split at hd
      · cases hd
      · exact hd
  | _ => cases hd

end Changes

/-! ## What an event writes -/

/-- The call that the event makes for each game it creates. -/
def creacion (f : FindGame) : Suceso → Option Creacion
  | .onCreate (.Invita IDusuario _) =>
      some (.crearNuevaJugadaRef false f.uid IDusuario)
  | .onCreate (.cearDynamickLink _) =>
      some (.crearNuevaJugadaRef true f.uid f.uid)
  | .onComplete _ => some (.crearNuevaJugada f.uid)
  | _ => none

theorem creacion_uid {f : FindGame} {e : Suceso} {c : Creacion}
    (h : f.creacion e = some c) : c.jugadorUnoID = f.uid := by
  unfold creacion at h
  split at h
  · cases h
    rfl
  · cases h
    rfl
  · cases h
    rfl
  · cases h

/-- The call gives the document its two fields. -/
theorem creacion_of_addJugada {db : BaseDatos} {f : FindGame} {e : Suceso}
    {t : Turno} (h : atiende db f e = some t) {g : String} {j : Jugada}
    (hj : .addJugada g j ∈ t.writes) :
    ∃ c, f.creacion e = some c ∧ j.jugadorUnoID = c.jugadorUnoID ∧
      j.invitacionID = c.invitacionID := by
  have hemite := (atiende_writes h).1 _ hj
  cases e with
  | onCreate tipo =>
      obtain ⟨-, ⟨⟩⟩ := Option.ite_none_right_eq_some.mp h
      cases tipo with
      | pLibre => cases hj
      | null => cases hj
      | pinvDirecta partidaID => cases buscarJugadaRef_writes hj
      | cearDynamickLink nueva =>
          cases List.mem_singleton.mp hj
          exact ⟨_, rfl, rfl, rfl⟩
      | Invita IDusuario nueva =>
          cases List.mem_singleton.mp hj
          exact ⟨_, rfl, rfl, rfl⟩
  | linkReception deepLink =>
      obtain ⟨-, ⟨⟩⟩ := Option.ite_none_right_eq_some.mp h
      unfold linkReception at hj
      split at hj
      · cases hj
      · cases buscarJugadaRef_writes hj
  | onComplete nuevas =>
      simp only [atiende] at h
      split at h
      next docs hespera =>
        obtain ⟨-, ⟨⟩⟩ := Option.ite_none_right_eq_some.mp h
        obtain ⟨ids, -, hids⟩ :=
          onComplete_eq docs nuevas { f with espera := .nada }
        rw [hids] at hj
        rcases List.mem_append.mp hj with hnueva | hclaim
        · obtain ⟨id, -, heq⟩ := List.mem_map.mp hnueva
          cases heq
          exact ⟨_, rfl, rfl, rfl⟩
        · obtain ⟨p, -, heq⟩ :=
            Option.map_eq_some_iff.mp (Option.mem_toList.mp hclaim)
          cases heq
      · cases h
  | responde docs =>
      obtain ⟨-, ⟨⟩⟩ := Option.ite_none_right_eq_some.mp h
      cases hj
  | noResponde =>
      obtain ⟨-, ⟨⟩⟩ := Option.ite_none_right_eq_some.mp h
      cases hj
  | emite n =>
      simp only [atiende] at h
      split at h
      · cases h
      · rw [← Option.some.inj h] at hj
        cases hj
  | onEvent =>
      simp only [atiende] at h
      split at h
      · cases h
      · split at h
        · rw [← Option.some.inj h, onEvent_writes] at hj
          cases hj
        · rw [← Option.some.inj h] at hj
          cases hj
  | run =>
      obtain ⟨-, ⟨⟩⟩ := Option.ite_none_right_eq_some.mp h
      cases hj
  | onStart =>
      obtain ⟨-, ⟨⟩⟩ := Option.ite_none_right_eq_some.mp h
      cases hj
  | onStop =>
      obtain ⟨-, ⟨⟩⟩ := Option.ite_none_right_eq_some.mp h
      rw [f.onStop_writes] at hj
      split at hj
      · cases hj
      · cases List.mem_singleton.mp hj
  | onBackPressed =>
      obtain ⟨-, ⟨⟩⟩ := Option.ite_none_right_eq_some.mp h
      cases hj

/-- An event that creates, joins and deletes nothing writes nothing. -/
theorem writes_eq_nil {db : BaseDatos} {f : FindGame} {e : Suceso} {t : Turno}
    (h : atiende db f e = some t) (hcrea : f.creacion e = none)
    (hpide : f.pide e = none) (hborra : f.borra e = none) : t.writes = [] := by
  refine List.eq_nil_iff_forall_not_mem.mpr fun w hw => ?_
  have hemite := (atiende_writes h).1 w hw
  cases w with
  | addJugada g j =>
      obtain ⟨c, hc, -⟩ := creacion_of_addJugada h hw
      exact absurd (hcrea.symm.trans hc) nofun
  | reclamar g j => exact absurd (hpide.symm.trans (hemite.pide rfl)) nofun
  | unirse g u => exact absurd (hpide.symm.trans (hemite.pide rfl)) nofun
  | rechazar g u => exact absurd (hpide.symm.trans (hemite.pide rfl)) nofun
  | deleteJugada g => exact absurd (hborra.symm.trans hemite.borra_eq) nofun
  | setJugada g j => nomatch hemite
  | setUser x l => nomatch hemite

/-! ## The callbacks of the writes -/

/-- The screen after a write has been confirmed. -/
inductive Confirma (f : FindGame) : Escritura → Bool → FindGame → Prop where
  | crea (id : String) (j : Jugada) :
      Confirma f (.addJugada id j) true (esperarJugador { f with jugadaId := id })
  | entra (w : Escritura) (g : String) (hune : w.une = some g) :
      Confirma f w true f.starGame
  | rechazada (g u : String) :
      Confirma f (.unirse g u) false { f with terminada := true }
  | borra (g : String) (ok : Bool) :
      Confirma f (.deleteJugada g) ok { f with jugadaId := "" }
  | nada (w : Escritura) (ok : Bool)
      (hune : ok = true → w.une = none ∧ w.crea = none)
      (hborra : ∀ g, w ≠ .deleteJugada g) : Confirma f w ok f
  | caida (w : Escritura) (ok : Bool) (hcaida : f.caida = true) :
      Confirma f w ok f

theorem ack_confirma (f : FindGame) (w : Escritura) (ok : Bool) :
    Confirma f w ok (f.ack w ok) := by
  unfold ack
  split
  next hcaida => exact .caida w ok hcaida
  · cases w with
    | addJugada id j =>
        cases ok with
        | true => exact .crea id j
        | false => exact .nada _ _ nofun nofun
    | reclamar g j =>
        cases ok with
        | true => exact .entra _ g rfl
        | false => exact .nada _ _ nofun nofun
    | unirse g u =>
        cases ok with
        | true => exact .entra _ g rfl
        | false => exact .rechazada g u
    | deleteJugada g => exact .borra g ok
    | setJugada g j => exact .nada _ _ (fun _ => ⟨rfl, rfl⟩) nofun
    | rechazar g u => exact .nada _ _ (fun _ => ⟨rfl, rfl⟩) nofun
    | setUser x l => exact .nada _ _ (fun _ => ⟨rfl, rfl⟩) nofun

section Confirmed

variable {f f' : FindGame} {w : Escritura} {ok : Bool}

theorem Confirma.uid (h : Confirma f w ok f') : f'.uid = f.uid := by
  cases h with
  | entra _ g hune => exact quitaListener_uid f
  | _ => rfl

theorem Confirma.espera (h : Confirma f w ok f') : f'.espera = f.espera := by
  cases h with
  | entra _ g hune => exact quitaListener_espera f
  | _ => rfl

theorem Confirma.caida_eq (h : Confirma f w ok f') : f'.caida = f.caida := by
  cases h with
  | entra _ g hune => exact quitaListener_caida f
  | _ => rfl

/-- The screen has no callback for the writes of others. -/
theorem Confirma.ajena (h : Confirma f w ok f') (hw : w.Ajena) : f' = f := by
  cases h with
  | crea id j => exact absurd hw.crea nofun
  | entra _ g hune => exact absurd (hune.symm.trans hw.une) nofun
  | rechazada g u => exact absurd hw.une nofun
  | borra g => exact absurd hw.borrada nofun
  | nada _ _ hune hborra => rfl
  | caida _ _ hcaida => rfl

variable (f w ok)

@[simp] theorem ack_uid : (f.ack w ok).uid = f.uid :=
  (ack_confirma f w ok).uid

@[simp] theorem ack_espera : (f.ack w ok).espera = f.espera :=
  (ack_confirma f w ok).espera

@[simp] theorem ack_caida : (f.ack w ok).caida = f.caida :=
  (ack_confirma f w ok).caida_eq

end Confirmed

end FindGame

end Tocate
