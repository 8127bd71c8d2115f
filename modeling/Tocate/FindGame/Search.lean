import Tocate.FindGame.Seats

/-!
# The games a search screen starts

A search screen starts the match only with a game that its device has created,
or in which it has been seated, or with no game at all.  While it waits for the
reply that decides what it does, nothing else is under way for it.
-/

namespace Tocate.Sala

open Cloud

variable {ι : Type*}

/-- No listener is registered and no start is pending. -/
def Callado (f : FindGame) : Prop := f.registros = [] ∧ f.handler = 0

/-- The search screen of device `i`, with its unconfirmed writes `pend`. -/
structure Buscador (uid : ι → String) (k : Mesas ι) (i : ι) (f : FindGame)
    (pend : List Escritura) : Prop where
  usuario : f.uid = uid i
  empezadas : ∀ g ∈ f.empezadas, Mia uid k i g
  espera : f.espera ≠ .nada → f.jugadaId = "" ∧ Callado f ∧
    ∀ w ∈ pend, w.une = none ∧ w.crea = none
  jugadaId : Mia uid k i f.jugadaId ∨
    (Callado f ∧ ∀ w ∈ pend, ∀ g, w.une = some g → g = f.jugadaId)
  docs : ∀ docs, f.espera = .onComplete docs →
    ∀ p ∈ docs, k.creador p.1 = some p.2.jugadorUnoID

section Search

variable {uid : ι → String} {k k' : Mesas ι} {i : ι} {f : FindGame}
  {pend : List Escritura}

theorem Buscador.mono (hle : k.Crece k') (h : Buscador uid k i f pend) :
    Buscador uid k' i f pend where
  usuario := h.usuario
  empezadas := fun g hg => (h.empezadas g hg).mono hle
  espera := h.espera
  jugadaId := h.jugadaId.imp (fun hm => hm.mono hle) id
  docs := fun docs hd p hp => hle.creador _ _ (h.docs docs hd p hp)

/-- Fewer unconfirmed writes are left. -/
theorem Buscador.subset {pend' : List Escritura}
    (h : Buscador uid k i f pend) (hsub : pend' ⊆ pend) :
    Buscador uid k i f pend' where
  usuario := h.usuario
  empezadas := h.empezadas
  espera := fun he => by
    obtain ⟨hid, hcalla, hpend⟩ := h.espera he
    exact ⟨hid, hcalla, fun w hw => hpend w (hsub hw)⟩
  jugadaId := h.jugadaId.imp id fun hpend =>
    ⟨hpend.1, fun w hw => hpend.2 w (hsub hw)⟩
  docs := h.docs

/-- Writes of the other screens join the queue. -/
theorem Buscador.otras {ws : List Escritura} (h : Buscador uid k i f pend)
    (hune : ∀ w ∈ ws, w.une = none) (hcrea : ∀ w ∈ ws, w.crea = none) :
    Buscador uid k i f (pend ++ ws) where
  usuario := h.usuario
  empezadas := h.empezadas
  espera := fun he => by
    obtain ⟨hid, hcalla, hpend⟩ := h.espera he
    refine ⟨hid, hcalla, fun w hw => ?_⟩
    rcases List.mem_append.mp hw with hold | hnew
    · exact hpend w hold
    · exact ⟨hune w hnew, hcrea w hnew⟩
  jugadaId := h.jugadaId.imp id fun hpend =>
    ⟨hpend.1, fun w hw g hg => by
      rcases List.mem_append.mp hw with hold | hnew
      · exact hpend.2 w hold g hg
      · exact absurd ((hune w hnew).symm.trans hg) (by simp)⟩
  docs := h.docs

theorem callado_quitaListener (h : Callado f) : Callado f.quitaListener :=
  ⟨f.quitaListener_registros h.1, by rw [f.quitaListener_handler]; exact h.2⟩

theorem Buscador.quitaListener (h : Buscador uid k i f pend) :
    Buscador uid k i f.quitaListener pend := by
  refine ⟨?_, ?_, ?_, ?_, ?_⟩
  · rw [f.quitaListener_uid]
    exact h.usuario
  · rw [f.quitaListener_empezadas]
    exact h.empezadas
  · rw [f.quitaListener_espera, f.quitaListener_jugadaId]
    intro he
    obtain ⟨hid, hcalla, hpend⟩ := h.espera he
    exact ⟨hid, callado_quitaListener hcalla, hpend⟩
  · rw [f.quitaListener_jugadaId]
    exact h.jugadaId.imp id fun hpend =>
      ⟨callado_quitaListener hpend.1, hpend.2⟩
  · rw [f.quitaListener_espera]
    exact h.docs

/-- The match is started with a game of the device. -/
theorem Buscador.starGame (h : Buscador uid k i f pend)
    (hmia : Mia uid k i f.jugadaId) : Buscador uid k i f.starGame pend := by
  have hq := h.quitaListener
  refine ⟨hq.usuario, ?_, ?_, Or.inl (Or.inl rfl), hq.docs⟩
  · intro g hg
    rcases List.mem_append.mp hg with hold | hnew
    · exact h.empezadas g hold
    · rw [List.mem_singleton.mp hnew]
      exact hmia
  · intro he
    obtain ⟨-, hcalla, hpend⟩ := hq.espera he
    exact ⟨rfl, hcalla, hpend⟩

/-- A callback of the oldest unconfirmed write. -/
theorem Buscador.ack {w : Escritura} {ok : Bool}
    (h : Buscador uid k i f (w :: pend)) (hw : Confirmada uid k i (w, ok)) :
    Buscador uid k i (f.ack w ok) pend := by
  have hsub : Buscador uid k i f pend := h.subset (List.subset_cons_self w pend)
  have hespera : w.une ≠ none ∨ w.crea ≠ none → f.espera = .nada := by
    intro hno
    by_contra he
    obtain ⟨-, -, hpend⟩ := h.espera he
    obtain ⟨hune, hcrea⟩ := hpend w List.mem_cons_self
    exact hno.elim (fun hn => hn hune) fun hn => hn hcrea
  -- a confirmed join makes the game it is about one of the device
  have hempieza : ∀ g, w.une = some g → ok = true →
      Buscador uid k i f.starGame pend := by
    intro g hg hok
    refine hsub.starGame ?_
    rcases h.jugadaId with hmia | ⟨-, hpend⟩
    · exact hmia
    · rw [← hpend w List.mem_cons_self g hg]
      exact Or.inr (Or.inr ((hw hok).1 g hg))
  unfold FindGame.ack
  by_cases hcaida : f.caida = true
  · rw [if_pos hcaida]
    exact hsub
  · rw [if_neg hcaida]
    have hvacia : Buscador uid k i { f with jugadaId := "" } pend :=
      ⟨h.usuario, h.empezadas, fun he => ⟨rfl, (hsub.espera he).2⟩,
        Or.inl (Or.inl rfl), h.docs⟩
    cases w with
    | addJugada g j =>
        cases ok with
        | false => exact hsub
        | true =>
            have hnada := hespera (Or.inr (by simp [Escritura.crea]))
            refine ⟨h.usuario, h.empezadas, fun he => absurd hnada he, ?_, ?_⟩
            · exact Or.inl (Or.inr (Or.inl ((hw rfl).2 g rfl)))
            · intro docs hd
              exact absurd (hnada.symm.trans hd) (by simp)
    | reclamar g j =>
        cases ok with
        | false => exact hsub
        | true => exact hempieza g rfl rfl
    | unirse g u =>
        cases ok with
        | false =>
            exact ⟨hsub.usuario, hsub.empezadas, hsub.espera, hsub.jugadaId,
              hsub.docs⟩
        | true => exact hempieza g rfl rfl
    | deleteJugada g => exact hvacia
    | setJugada g j => exact hsub
    | rechazar g u => exact hsub
    | setUser x l => exact hsub

/-- Nothing is written, and what the device may start stays. -/
theorem Buscador.sinEscribir (h : Buscador uid k i f pend) :
    Buscador uid k i f (pend ++ []) := by
  rw [List.append_nil]
  exact h

/-- The screen, freed from its wait, asks to join `g`. -/
theorem Buscador.alUnirse (h : Buscador uid k i f pend)
    (hespera : f.espera ≠ .nada) (g : String) {f' : FindGame}
    {ws : List Escritura} (huid : f'.uid = f.uid)
    (hempezadas : f'.empezadas = f.empezadas) (hid : f'.jugadaId = g)
    (hregistros : f'.registros = f.registros) (hhandler : f'.handler = f.handler)
    (hnada : f'.espera = .nada)
    (hws : ∀ w ∈ ws, ∀ g', w.une = some g' → g' = g) :
    Buscador uid k i f' (pend ++ ws) := by
  obtain ⟨-, hcalla, hpend⟩ := h.espera hespera
  refine ⟨?_, ?_, fun he => absurd hnada he, Or.inr ⟨?_, ?_⟩, ?_⟩
  · rw [huid]
    exact h.usuario
  · rw [hempezadas]
    exact h.empezadas
  · exact ⟨hregistros.trans hcalla.1, hhandler.trans hcalla.2⟩
  · intro w hw g' hg'
    rw [hid]
    rcases List.mem_append.mp hw with hold | hnew
    · exact absurd ((hpend w hold).1.symm.trans hg') (by simp)
    · exact hws w hnew g' hg'
  · intro docs hd
    exact absurd (hnada.symm.trans hd) (by simp)

/-- The screen, freed from its wait, creates games only. -/
theorem Buscador.alCrear (h : Buscador uid k i f pend)
    (hespera : f.espera ≠ .nada) {f' : FindGame} {ws : List Escritura}
    (huid : f'.uid = f.uid) (hempezadas : f'.empezadas = f.empezadas)
    (hid : f'.jugadaId = f.jugadaId) (hnada : f'.espera = .nada) :
    Buscador uid k i f' (pend ++ ws) := by
  obtain ⟨hvacia, -, -⟩ := h.espera hespera
  refine ⟨?_, ?_, fun he => absurd hnada he, Or.inl (Or.inl ?_), ?_⟩
  · rw [huid]
    exact h.usuario
  · rw [hempezadas]
    exact h.empezadas
  · rw [hid]
    exact hvacia
  · intro docs hd
    exact absurd (hnada.symm.trans hd) (by simp)

theorem Buscador.optenerTipoJugada (h : Buscador uid k i f pend)
    (hespera : f.espera = .onCreate) (tipo : TipoPartida) :
    Buscador uid k i (FindGame.optenerTipoJugada tipo f).state
      (pend ++ (FindGame.optenerTipoJugada tipo f).writes) := by
  have hno : f.espera ≠ .nada := by simp [hespera]
  cases tipo with
  | pLibre =>
      exact Buscador.sinEscribir ⟨h.usuario, h.empezadas, fun _ => h.espera hno,
        h.jugadaId, nofun⟩
  | null =>
      exact Buscador.sinEscribir ⟨h.usuario, h.empezadas, fun _ => h.espera hno,
        h.jugadaId, nofun⟩
  | cearDynamickLink id => exact h.alCrear hno rfl rfl rfl rfl
  | Invita inv id => exact h.alCrear hno rfl rfl rfl rfl
  | pinvDirecta g =>
      simp only [FindGame.optenerTipoJugada, FindGame.buscarJugadaRef_state]
      refine h.alUnirse hno g rfl rfl rfl rfl rfl rfl fun w hw g' hg' => ?_
      rw [FindGame.buscarJugadaRef_writes hw] at hg'
      exact (Option.some.inj hg').symm

theorem Buscador.linkReception (h : Buscador uid k i f pend)
    (hespera : f.espera = .getDynamicLink) (deepLink : Option (List Char)) :
    Buscador uid k i
      (FindGame.linkReception deepLink { f with espera := .nada }).state
      (pend ++
        (FindGame.linkReception deepLink { f with espera := .nada }).writes) := by
  have hno : f.espera ≠ .nada := by simp [hespera]
  unfold FindGame.linkReception
  split
  · exact h.alCrear hno rfl rfl rfl rfl
  next r resto hr =>
    simp only [FindGame.buscarJugadaRef_state]
    refine h.alUnirse hno (String.ofList r) rfl rfl rfl rfl rfl rfl
      fun w hw g' hg' => ?_
    rw [FindGame.buscarJugadaRef_writes hw] at hg'
    exact (Option.some.inj hg').symm

theorem Buscador.onComplete (h : Buscador uid k i f pend)
    {docs : List (String × Jugada)} (hespera : f.espera = .onComplete docs)
    (nuevas : List String) :
    Buscador uid k i
      (FindGame.onComplete docs nuevas { f with espera := .nada }).state
      (pend ++
        (FindGame.onComplete docs nuevas { f with espera := .nada }).writes) := by
  have hno : f.espera ≠ .nada := by simp [hespera]
  obtain ⟨ids, -, hids⟩ :=
    FindGame.onComplete_eq docs nuevas { f with espera := .nada }
  rw [hids]
  cases hp : FindGame.encontrada f.uid docs with
  | none =>
      refine h.alCrear hno rfl rfl ?_ rfl
      rfl
  | some p =>
      refine h.alUnirse hno p.1 rfl rfl ?_ rfl rfl rfl ?_
      · rfl
      · intro w hw g' hg'
        simp only [Option.map_some, Option.toList_some] at hw
        rcases List.mem_append.mp hw with hadd | hclaim
        · obtain ⟨id, -, rfl⟩ := List.mem_map.mp hadd
          exact absurd hg' (by simp [Escritura.une])
        · rw [List.mem_singleton.mp hclaim] at hg'
          exact (Option.some.inj hg').symm

/-- The answer to the query shows games of the server. -/
theorem Buscador.responde (h : Buscador uid k i f pend)
    (hno : f.espera ≠ .nada) {docs : List (String × Jugada)}
    (hdocs : ∀ p ∈ docs, k.creador p.1 = some p.2.jugadorUnoID) :
    Buscador uid k i { f with espera := .onComplete docs } pend := by
  refine ⟨h.usuario, h.empezadas, fun _ => h.espera hno, h.jugadaId, ?_⟩
  intro docs' hd
  rw [← Espera.onComplete.inj hd]
  exact hdocs

/-- A screen with a listener or a delayed start has a game of its device. -/
theorem Buscador.mia (h : Buscador uid k i f pend) (hhabla : ¬Callado f) :
    Mia uid k i f.jugadaId :=
  h.jugadaId.resolve_right fun hc => hhabla hc.1

/-- The listener reports the game: a start may be delayed. -/
theorem Buscador.onEvent (h : Buscador uid k i f pend) (hhabla : ¬Callado f)
    (snap : Option Jugada) :
    Buscador uid k i (FindGame.onEvent snap f).state pend := by
  cases snap with
  | none => exact h
  | some j =>
      unfold FindGame.onEvent
      dsimp only
      split
      · exact ⟨h.usuario, h.empezadas,
          fun he => absurd (h.espera he).2.1 hhabla, Or.inl (h.mia hhabla),
          h.docs⟩
      · exact h

/-- The delayed start. -/
theorem Buscador.run (h : Buscador uid k i f pend) (hhabla : ¬Callado f) :
    Buscador uid k i f.run pend := by
  have hmia := h.mia hhabla
  refine Buscador.starGame ⟨h.usuario, h.empezadas, ?_, Or.inl hmia, h.docs⟩ hmia
  exact fun he => absurd (h.espera he).2.1 hhabla

theorem Buscador.onStop (h : Buscador uid k i f pend) :
    Buscador uid k i f.onStop.state (pend ++ f.onStop.writes) := by
  have hune : ∀ w ∈ f.onStop.writes, w.une = none := by
    rw [f.onStop_writes]
    split
    · exact List.forall_mem_nil _
    · intro w hw
      rw [List.mem_singleton.mp hw]
      rfl
  have hbase : Buscador uid k i
      { f with
        iniciada := false
        espera := if f.espera = .getDynamicLink then .nada else f.espera }
      (pend ++ f.onStop.writes) := by
    refine ⟨h.usuario, h.empezadas, ?_, ?_, ?_⟩
    · intro he
      by_cases hlink : f.espera = .getDynamicLink
      · exact absurd (if_pos hlink) he
      · rw [if_neg hlink] at he
        obtain ⟨hid, hcalla, hpend⟩ := h.espera he
        refine ⟨hid, hcalla, ?_⟩
        rw [f.onStop_writes, if_pos (Or.inr hid), List.append_nil]
        exact hpend
    · refine h.jugadaId.imp id fun hpend => ⟨hpend.1, ?_⟩
      intro w hw g hg
      rcases List.mem_append.mp hw with hold | hnew
      · exact hpend.2 w hold g hg
      · exact absurd ((hune w hnew).symm.trans hg) (by simp)
    · intro docs hd
      by_cases hlink : f.espera = .getDynamicLink
      · exact absurd ((if_pos hlink).symm.trans hd) (by simp)
      · exact h.docs docs ((if_neg hlink).symm.trans hd)
  rw [f.onStop_state]
  dsimp only
  split
  · exact hbase
  · exact hbase.quitaListener

/-- One event on the search screen. -/
theorem Buscador.atiende {db : BaseDatos} {e : FindGame.Suceso}
    {t : FindGame.Turno} (h : Buscador uid k i f pend)
    (hdb : ∀ g j, db.jugadas g = some j → k.creador g = some j.jugadorUnoID)
    (ht : FindGame.atiende db f e = some t) :
    Buscador uid k i t.state (pend ++ t.writes) := by
  cases e with
  | onCreate tipo =>
      obtain ⟨hespera, ⟨⟩⟩ := Option.ite_none_right_eq_some.mp ht
      exact h.optenerTipoJugada hespera tipo
  | linkReception deepLink =>
      obtain ⟨hespera, ⟨⟩⟩ := Option.ite_none_right_eq_some.mp ht
      exact h.linkReception hespera.1 deepLink
  | responde docs =>
      obtain ⟨hdocs, ⟨⟩⟩ := Option.ite_none_right_eq_some.mp ht
      have hno : f.espera ≠ .nada := by simp [hdocs.1]
      exact (h.responde hno fun p hp => hdb _ _ (hdocs.2 p hp).1).sinEscribir
  | noResponde =>
      obtain ⟨hespera, ⟨⟩⟩ := Option.ite_none_right_eq_some.mp ht
      have hno : f.espera ≠ .nada := by simp [hespera]
      exact h.alCrear hno rfl rfl rfl rfl
  | onComplete nuevas =>
      simp only [FindGame.atiende] at ht
      split at ht
      next docs hespera =>
        obtain ⟨-, ⟨⟩⟩ := Option.ite_none_right_eq_some.mp ht
        exact h.onComplete hespera nuevas
      · cases ht
  | emite n =>
      simp only [FindGame.atiende] at ht
      split at ht
      · cases ht
      · rw [← Option.some.inj ht]
        exact Buscador.sinEscribir
          ⟨h.usuario, h.empezadas, h.espera, h.jugadaId, h.docs⟩
  | onEvent =>
      simp only [FindGame.atiende] at ht
      split at ht
      · cases ht
      next n snap eventos hev =>
        have hresto : Buscador uid k i { f with eventos := eventos } pend :=
          ⟨h.usuario, h.empezadas, h.espera, h.jugadaId, h.docs⟩
        split at ht
        next hreg =>
          -- a listener is registered, so the screen is not silent
          have hhabla : ¬Callado f := by
            intro hcalla
            rw [hcalla.1] at hreg
            exact absurd hreg List.not_mem_nil
          rw [← Option.some.inj ht, FindGame.onEvent_writes]
          exact (hresto.onEvent hhabla snap).sinEscribir
        · rw [← Option.some.inj ht]
          exact hresto.sinEscribir
  | run =>
      obtain ⟨hhandler, ⟨⟩⟩ := Option.ite_none_right_eq_some.mp ht
      have hhabla : ¬Callado f := fun hcalla =>
        Nat.ne_of_gt hhandler hcalla.2
      exact (h.run hhabla).sinEscribir
  | onStart =>
      obtain ⟨-, ⟨⟩⟩ := Option.ite_none_right_eq_some.mp ht
      exact Buscador.sinEscribir
        ⟨h.usuario, h.empezadas, h.espera, h.jugadaId, h.docs⟩
  | onStop =>
      obtain ⟨-, ⟨⟩⟩ := Option.ite_none_right_eq_some.mp ht
      exact h.onStop
  | onBackPressed =>
      obtain ⟨-, ⟨⟩⟩ := Option.ite_none_right_eq_some.mp ht
      exact Buscador.sinEscribir
        ⟨h.usuario, h.empezadas, h.espera, h.jugadaId, h.docs⟩

theorem Buscador.react {db : BaseDatos} {e : FindGame.Suceso} {f' : FindGame}
    {ws : List Escritura} (h : Buscador uid k i f pend)
    (hdb : ∀ g j, db.jugadas g = some j → k.creador g = some j.jugadorUnoID)
    (hreact : FindGame.react db f e = some (f', ws)) :
    Buscador uid k i f' (pend ++ ws) := by
  obtain ⟨-, t, ht, hcierra⟩ := FindGame.react_eq_some hreact
  obtain ⟨rfl, rfl⟩ := Prod.mk.inj hcierra
  have hb := h.atiende hdb ht
  exact ⟨hb.usuario, hb.empezadas, hb.espera, hb.jugadaId, hb.docs⟩

end Search

end Tocate.Sala
