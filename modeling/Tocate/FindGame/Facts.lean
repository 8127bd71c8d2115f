import Tocate.FindGame.Activity

/-!
# What the search screen does

For every event: whose game the screen asks to join, which game it deletes, and
the shape of the list of writes it issues.
-/

namespace Tocate

open Cloud

/-- The game in which the write seats its author. -/
def Escritura.sienta : Escritura → Option String
  | .reclamar g _ | .unirse g _ | .rechazar g _ => some g
  | .addJugada _ _ | .setJugada _ _ | .deleteJugada _ | .setUser _ _ => none

/-- The game that the write of a search screen joins. -/
def Escritura.une : Escritura → Option String
  | .reclamar g _ | .unirse g _ => some g
  | .rechazar _ _ | .addJugada _ _ | .setJugada _ _ | .deleteJugada _
  | .setUser _ _ => none

/-- The game that the write of a free search claims. -/
def Escritura.reclamada : Escritura → Option String
  | .reclamar g _ => some g
  | .unirse _ _ | .rechazar _ _ | .addJugada _ _ | .setJugada _ _
  | .deleteJugada _ | .setUser _ _ => none

/-- The game that the write stores whole, whatever is there. -/
def Escritura.repone : Escritura → Option String
  | .setJugada g _ | .reclamar g _ => some g
  | .unirse _ _ | .rechazar _ _ | .addJugada _ _ | .deleteJugada _
  | .setUser _ _ => none

theorem Escritura.reclamada_eq {w : Escritura} {g : String}
    (h : w.reclamada = some g) : ∃ j, w = .reclamar g j := by
  cases w with
  | reclamar g' j => exact ⟨j, by rw [Option.some.inj h]⟩
  | _ => cases h

theorem Escritura.repone_of_reclamada {w : Escritura} {g : String}
    (h : w.reclamada = some g) : w.repone = some g := by
  obtain ⟨j, rfl⟩ := reclamada_eq h
  rfl

/-- The game that the write creates. -/
def Escritura.crea : Escritura → Option String
  | .addJugada g _ => some g
  | .reclamar _ _ | .unirse _ _ | .rechazar _ _ | .setJugada _ _
  | .deleteJugada _ | .setUser _ _ => none

theorem Escritura.crea_eq {w : Escritura} {g : String}
    (h : w.crea = some g) : ∃ j, w = .addJugada g j := by
  cases w with
  | addJugada g' j => exact ⟨j, by rw [Option.some.inj h]⟩
  | _ => cases h

/-- The game that the write deletes. -/
def Escritura.borrada : Escritura → Option String
  | .deleteJugada g => some g
  | .addJugada _ _ | .setJugada _ _ | .reclamar _ _ | .unirse _ _
  | .rechazar _ _ | .setUser _ _ => none

theorem Escritura.borrada_eq {w : Escritura} {g : String}
    (h : w.borrada = some g) : w = .deleteJugada g := by
  cases w with
  | deleteJugada g' => rw [Option.some.inj h]
  | _ => cases h

/-- The write is none of those by which a search screen creates, joins and
deletes games. -/
structure Escritura.Ajena (w : Escritura) : Prop where
  crea : w.crea = none
  une : w.une = none
  borrada : w.borrada = none

namespace FindGame

theorem react_eq_some {db : BaseDatos} {f f' : FindGame} {e : Suceso}
    {ws : List Escritura} (h : react db f e = some (f', ws)) :
    f.caida = false ∧ ∃ t, atiende db f e = some t ∧ (f', ws) = cierra t := by
  unfold react at h
  by_cases hcaida : f.caida = true
  · rw [if_pos hcaida] at h
    exact absurd h (by simp)
  · rw [if_neg hcaida] at h
    obtain ⟨t, ht, hcierra⟩ := Option.map_eq_some_iff.mp h
    exact ⟨by simpa using hcaida, t, ht, hcierra.symm⟩

/-! ## The loop of the free search -/

/-- A game that the free search of `uid` may claim. -/
def Conviene (uid : String) (p : String × Jugada) : Bool :=
  decide (p.2.invitacionID = "") && decide (p.2.jugadorUnoID ≠ uid)

/-- The first game that suits. -/
def encontrada (uid : String) (docs : List (String × Jugada)) :
    Option (String × Jugada) :=
  docs.find? (Conviene uid)

/-- The games that come before the first one that suits. -/
def descartadas (uid : String) (docs : List (String × Jugada)) :
    List (String × Jugada) :=
  docs.takeWhile fun p => !Conviene uid p

/-- The claim of a game that has been found. -/
def reclama (uid : String) (p : String × Jugada) : Escritura :=
  .reclamar p.1 { p.2 with jugadorDosID := uid }

/-- The loop creates a game for each one that it passes over and claims the one
that suits last. -/
theorem recorre_eq (docs : List (String × Jugada)) (nuevas : List String)
    (f : FindGame) :
    ∃ ids : List String, ids.length = (descartadas f.uid docs).length ∧
      recorre docs nuevas f =
        { state :=
            { f with
              jugadaId := ((encontrada f.uid docs).map Prod.fst).getD f.jugadaId }
          writes :=
            (ids.map fun id => .addJugada id (Jugada.nueva f.uid "")) ++
              ((encontrada f.uid docs).map (reclama f.uid)).toList } := by
  induction docs generalizing nuevas with
  | nil => exact ⟨[], rfl, rfl⟩
  | cons p docs ih =>
      obtain ⟨id, j⟩ := p
      by_cases hp : j.invitacionID = "" ∧ j.jugadorUnoID ≠ f.uid
      · have hconviene : Conviene f.uid (id, j) = true := by
          simp [Conviene, hp.1, hp.2]
        have hfind : encontrada f.uid ((id, j) :: docs) = some (id, j) :=
          List.find?_cons_of_pos hconviene
        refine ⟨[], ?_, ?_⟩
        · simp [descartadas, hconviene]
        · rw [hfind]
          simp [recorre, hp.1, hp.2, reclama]
      · have hno : Conviene f.uid (id, j) = false := by
          simpa [Conviene] using hp
        have hfind : encontrada f.uid ((id, j) :: docs) =
            encontrada f.uid docs :=
          List.find?_cons_of_neg (by simp [hno])
        obtain ⟨ids, hlen, hids⟩ := ih nuevas.tail
        refine ⟨nuevas.headD "" :: ids, ?_, ?_⟩
        · simp only [descartadas, List.takeWhile_cons, hno, Bool.not_false,
            if_true, List.length_cons]
          rw [hlen, descartadas]
        · rw [hfind, recorre, if_neg hp, crearNuevaJugada,
            Outcome.andThen_mk_false, hids]
          rfl

/-- What comes of a reply: a game is created also where none is found. -/
theorem onComplete_eq (docs : List (String × Jugada)) (nuevas : List String)
    (f : FindGame) :
    ∃ ids : List String,
      ids.length = max (descartadas f.uid docs).length
        (if docs = [] then 1 else 0) ∧
      onComplete docs nuevas f =
        { state :=
            { f with
              jugadaId := ((encontrada f.uid docs).map Prod.fst).getD f.jugadaId }
          writes :=
            (ids.map fun id => .addJugada id (Jugada.nueva f.uid "")) ++
              ((encontrada f.uid docs).map (reclama f.uid)).toList } := by
  by_cases hdocs : docs = []
  · subst hdocs
    exact ⟨[nuevas.headD ""], rfl, rfl⟩
  · obtain ⟨ids, hlen, hids⟩ := recorre_eq docs nuevas f
    refine ⟨ids, ?_, ?_⟩
    · rw [if_neg hdocs, hlen, Nat.max_zero]
    · have hne : docs.length ≠ 0 := fun h =>
        hdocs (List.length_eq_zero_iff.mp h)
      rw [onComplete, if_neg hne, hids]

/-! ## Stopping -/

section Stopping

variable (f : FindGame)

@[simp] theorem quitaListener_uid : f.quitaListener.uid = f.uid := by
  unfold quitaListener
  split <;> rfl

@[simp] theorem quitaListener_jugadaId :
    f.quitaListener.jugadaId = f.jugadaId := by
  unfold quitaListener
  split <;> rfl

@[simp] theorem quitaListener_empezadas :
    f.quitaListener.empezadas = f.empezadas := by
  unfold quitaListener
  split <;> rfl

@[simp] theorem quitaListener_handler :
    f.quitaListener.handler = f.handler := by
  unfold quitaListener
  split <;> rfl

@[simp] theorem quitaListener_eventos :
    f.quitaListener.eventos = f.eventos := by
  unfold quitaListener
  split <;> rfl

@[simp] theorem quitaListener_espera :
    f.quitaListener.espera = f.espera := by
  unfold quitaListener
  split <;> rfl

@[simp] theorem quitaListener_caida :
    f.quitaListener.caida = f.caida := by
  unfold quitaListener
  split <;> rfl

theorem quitaListener_registros (h : f.registros = []) :
    f.quitaListener.registros = [] := by
  unfold quitaListener
  split
  · exact h
  · simp [h]

theorem onStop_state :
    f.onStop.state =
      let f₁ :=
        { f with
          iniciada := false
          espera := if f.espera = .getDynamicLink then .nada else f.espera }
      if f.crearInv then f₁ else f₁.quitaListener := by
  unfold onStop
  dsimp only
  by_cases hcrear : f.crearInv = true
  · rw [if_pos hcrear, if_pos hcrear]
    rfl
  · rw [if_neg hcrear, if_neg hcrear, quitaListener_jugadaId]
    by_cases hid : f.jugadaId = ""
    · rw [if_neg (fun h => h hid)]
      rfl
    · rw [if_pos hid]

theorem onStop_writes :
    f.onStop.writes =
      if f.crearInv = true ∨ f.jugadaId = "" then []
      else [.deleteJugada f.jugadaId] := by
  unfold onStop
  dsimp only
  by_cases hcrear : f.crearInv = true
  · rw [if_pos hcrear, if_pos (Or.inl hcrear)]
    rfl
  · rw [if_neg hcrear, quitaListener_jugadaId]
    by_cases hid : f.jugadaId = ""
    · rw [if_neg (fun h => h hid), if_pos (Or.inr hid)]
      rfl
    · have hno : ¬(f.crearInv = true ∨ f.jugadaId = "") := not_or.mpr
        ⟨hcrear, hid⟩
      rw [if_neg hno]
      exact congrArg Outcome.writes (if_pos hid)

end Stopping

/-! ## Joins and deletions -/

/-- The game that the event makes the screen ask to join. -/
def pide (f : FindGame) : Suceso → Option String
  | .onCreate (.pinvDirecta partidaID) => some partidaID
  | .linkReception deepLink =>
      (deepLink.bind leeEnlace).map fun r => String.ofList r.1
  | .onComplete _ =>
      match f.espera with
      | .onComplete docs => (encontrada f.uid docs).map Prod.fst
      | _ => none
  | _ => none

/-- The game that the event makes the screen delete. -/
def borra (f : FindGame) : Suceso → Option String
  | .onStop =>
      if f.crearInv = true ∨ f.jugadaId = "" then none else some f.jugadaId
  | _ => none

theorem borra_eq_some {f : FindGame} {e : Suceso} {g : String}
    (h : f.borra e = some g) :
    e = .onStop ∧ f.jugadaId ≠ "" ∧ g = f.jugadaId := by
  unfold borra at h
  split at h
  · split at h
    · cases h
    next hno => exact ⟨rfl, fun hid => hno (Or.inr hid), (Option.some.inj h).symm⟩
  · cases h

/-- A write of the search screen on event `e`. -/
inductive Emite (f : FindGame) (e : Suceso) : Escritura → Prop where
  | crea (id inv : String) : Emite f e (.addJugada id (Jugada.nueva f.uid inv))
  | unirse (g : String) (hpide : f.pide e = some g) :
      Emite f e (.unirse g f.uid)
  | reclama (docs : List (String × Jugada)) (p : String × Jugada)
      (nuevas : List String) (he : e = .onComplete nuevas)
      (hespera : f.espera = .onComplete docs)
      (hp : encontrada f.uid docs = some p) : Emite f e (reclama f.uid p)
  | borra (g : String) (hborra : f.borra e = some g) :
      Emite f e (.deleteJugada g)

section Emitted

variable {f : FindGame} {e : Suceso} {w : Escritura} {g : String}

/-- A seat is taken only in the game that the event asks for. -/
theorem Emite.pide (h : Emite f e w) (hg : w.sienta = some g) :
    f.pide e = some g := by
  obtain ⟨id, inv⟩ | ⟨g', hpide⟩ | ⟨docs, p, nuevas, rfl, hespera, hp⟩ |
    ⟨g', -⟩ := h
  · exact absurd hg (by simp [Escritura.sienta])
  · rw [hpide]
    exact hg
  · simp only [FindGame.pide, hespera, hp]
    exact hg
  · exact absurd hg (by simp [Escritura.sienta])

/-- A game is stored whole only by the claim of a free search. -/
theorem Emite.repone (h : Emite f e w) (hg : w.repone = some g) :
    w.sienta = some g ∧ ∃ nuevas, e = .onComplete nuevas := by
  obtain ⟨id, inv⟩ | ⟨g', -⟩ | ⟨docs, p, nuevas, rfl, -, -⟩ | ⟨g', -⟩ := h
  · exact absurd hg (by simp [Escritura.repone])
  · exact absurd hg (by simp [Escritura.repone])
  · exact ⟨hg, nuevas, rfl⟩
  · exact absurd hg (by simp [Escritura.repone])

theorem Emite.borra_eq (h : Emite f e (.deleteJugada g)) :
    f.borra e = some g := by
  generalize hw : Escritura.deleteJugada g = w at h
  obtain ⟨id, inv⟩ | ⟨g', -⟩ | ⟨docs, p, nuevas, -, -, -⟩ | ⟨g', hborra⟩ := h
  · exact absurd hw nofun
  · exact absurd hw nofun
  · exact absurd hw nofun
  · rw [hborra, Escritura.deleteJugada.inj hw]

theorem Emite.reclamar_eq {j : Jugada} (h : Emite f e (.reclamar g j)) :
    ∃ docs p, f.espera = .onComplete docs ∧ encontrada f.uid docs = some p ∧
      g = p.1 := by
  generalize hw : Escritura.reclamar g j = w at h
  obtain ⟨id, inv⟩ | ⟨g', -⟩ | ⟨docs, p, nuevas, -, hespera, hp⟩ | ⟨g', -⟩ := h
  · cases hw
  · cases hw
  · cases hw
    exact ⟨docs, p, hespera, hp, rfl⟩
  · cases hw

end Emitted

/-- The order of the writes of one event: creations first, and at most one
write of another kind, the last one. -/
def EnOrden (ws : List Escritura) : Prop :=
  ws.Pairwise fun v _ => ∃ id j, v = .addJugada id j

theorem enOrden_singleton (w : Escritura) : EnOrden [w] :=
  List.pairwise_singleton _ w

theorem buscarJugadaRef_writes {f : FindGame} {w : Escritura}
    (h : w ∈ (buscarJugadaRef f).writes) : w = .unirse f.jugadaId f.uid := by
  unfold buscarJugadaRef at h
  split at h
  · exact absurd h List.not_mem_nil
  · exact List.mem_singleton.mp h

theorem buscarJugadaRef_enOrden (f : FindGame) :
    EnOrden (buscarJugadaRef f).writes := by
  unfold buscarJugadaRef
  split
  · exact List.Pairwise.nil
  · exact enOrden_singleton _

@[simp] theorem buscarJugadaRef_state (f : FindGame) :
    (buscarJugadaRef f).state = f := by
  unfold buscarJugadaRef
  split
  · rfl
  · rfl

/-- The writes are such as event `e` may issue, and in order. -/
def Escribe (f : FindGame) (e : Suceso) (ws : List Escritura) : Prop :=
  (∀ w ∈ ws, Emite f e w) ∧ EnOrden ws

section Written

variable (f : FindGame) {e : Suceso}

theorem escribe_nada : Escribe f e [] :=
  ⟨List.forall_mem_nil _, List.Pairwise.nil⟩

variable {f}

theorem Emite.escribe {w : Escritura} (h : Emite f e w) : Escribe f e [w] :=
  ⟨fun _ hv => List.mem_singleton.mp hv ▸ h, enOrden_singleton w⟩

/-- The join by reference, from the fields as the event has set them. -/
theorem escribe_buscarJugadaRef {f' : FindGame} (huid : f'.uid = f.uid)
    (hpide : f.pide e = some f'.jugadaId) :
    Escribe f e (buscarJugadaRef f').writes := by
  refine ⟨fun w hw => ?_, buscarJugadaRef_enOrden f'⟩
  rw [buscarJugadaRef_writes hw, huid]
  exact .unirse f'.jugadaId hpide

variable (f)

theorem escribe_optenerTipoJugada (tipo : TipoPartida) :
    Escribe f (.onCreate tipo) (optenerTipoJugada tipo f).writes := by
  cases tipo with
  | pLibre => exact escribe_nada f
  | null => exact escribe_nada f
  | cearDynamickLink id => exact (Emite.crea id f.uid).escribe
  | Invita inv id => exact (Emite.crea id inv).escribe
  | pinvDirecta g => exact escribe_buscarJugadaRef rfl rfl

theorem escribe_linkReception (deepLink : Option (List Char)) :
    Escribe f (.linkReception deepLink)
      (linkReception deepLink { f with espera := .nada }).writes := by
  unfold linkReception
  split
  · exact escribe_nada f
  next r resto hr =>
    exact escribe_buscarJugadaRef rfl (by simp [pide, hr])

variable {f}

/-- The free search creates its games before it claims one. -/
theorem escribe_onComplete {docs : List (String × Jugada)}
    (hespera : f.espera = .onComplete docs) (nuevas : List String) :
    Escribe f (.onComplete nuevas)
      (onComplete docs nuevas { f with espera := .nada }).writes := by
  obtain ⟨ids, -, hids⟩ := onComplete_eq docs nuevas { f with espera := .nada }
  rw [hids]
  constructor
  · intro w hw
    rcases List.mem_append.mp hw with hadd | hclaim
    · obtain ⟨id, -, rfl⟩ := List.mem_map.mp hadd
      exact .crea id ""
    · obtain ⟨p, hp, rfl⟩ :=
        Option.map_eq_some_iff.mp (Option.mem_toList.mp hclaim)
      exact .reclama docs p nuevas rfl hespera hp
  · refine List.pairwise_append.mpr ⟨?_, ?_, ?_⟩
    · exact List.pairwise_map.mpr
        (List.pairwise_of_forall fun id _ => ⟨id, _, rfl⟩)
    · cases (encontrada f.uid docs).map (reclama f.uid) with
      | none => exact List.Pairwise.nil
      | some w => exact enOrden_singleton w
    · intro v hv w _
      obtain ⟨id, -, rfl⟩ := List.mem_map.mp hv
      exact ⟨id, _, rfl⟩

variable (f)

theorem escribe_onStop : Escribe f .onStop f.onStop.writes := by
  rw [f.onStop_writes]
  by_cases hno : f.crearInv = true ∨ f.jugadaId = ""
  · rw [if_pos hno]
    exact escribe_nada f
  · rw [if_neg hno]
    have hborra : f.borra .onStop = some f.jugadaId := if_neg hno
    exact (Emite.borra f.jugadaId hborra).escribe

theorem onEvent_writes (snap : Option Jugada) : (onEvent snap f).writes = [] := by
  cases snap with
  | none => rfl
  | some j =>
      unfold onEvent
      dsimp only
      split
      · rfl
      · rfl

end Written

/-- What an event may write, and in which order. -/
theorem atiende_writes {db : BaseDatos} {f : FindGame} {e : Suceso} {t : Turno}
    (h : atiende db f e = some t) : Escribe f e t.writes := by
  cases e with
  | onCreate tipo =>
      obtain ⟨-, ⟨⟩⟩ := Option.ite_none_right_eq_some.mp h
      exact escribe_optenerTipoJugada f tipo
  | linkReception deepLink =>
      obtain ⟨-, ⟨⟩⟩ := Option.ite_none_right_eq_some.mp h
      exact escribe_linkReception f deepLink
  | responde docs =>
      obtain ⟨-, ⟨⟩⟩ := Option.ite_none_right_eq_some.mp h
      exact escribe_nada f
  | noResponde =>
      obtain ⟨-, ⟨⟩⟩ := Option.ite_none_right_eq_some.mp h
      exact escribe_nada f
  | onComplete nuevas =>
      simp only [atiende] at h
      split at h
      next docs hespera =>
        obtain ⟨-, ⟨⟩⟩ := Option.ite_none_right_eq_some.mp h
        exact escribe_onComplete hespera nuevas
      · exact absurd h nofun
  | emite n =>
      simp only [atiende] at h
      split at h
      · exact absurd h nofun
      · rw [← Option.some.inj h]
        exact escribe_nada f
  | onEvent =>
      simp only [atiende] at h
      split at h
      · exact absurd h nofun
      next n snap eventos hev =>
        split at h
        · rw [← Option.some.inj h, onEvent_writes]
          exact escribe_nada f
        · rw [← Option.some.inj h]
          exact escribe_nada f
  | run =>
      obtain ⟨-, ⟨⟩⟩ := Option.ite_none_right_eq_some.mp h
      exact escribe_nada f
  | onStart =>
      obtain ⟨-, ⟨⟩⟩ := Option.ite_none_right_eq_some.mp h
      exact escribe_nada f
  | onStop =>
      obtain ⟨-, ⟨⟩⟩ := Option.ite_none_right_eq_some.mp h
      exact escribe_onStop f
  | onBackPressed =>
      obtain ⟨-, ⟨⟩⟩ := Option.ite_none_right_eq_some.mp h
      exact escribe_nada f

end FindGame

end Tocate
