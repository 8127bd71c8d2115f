import Tocate.FindGame.Steps
import Tocate.Lib.Cut

/-!
# The link to a game

`bulidDynamicLink` spells the link that a player shares, and `linkReception`
takes a game and its first player from the link that opened the screen.  Between
the two the service hands back the `link` part of what it was given.
-/

namespace Tocate.FindGame

open Cloud

/-! ## Spelling and reading -/

def bulidDynamicLink (datosjugada : String) : String :=
  "https://tocatef2.page.link/?" ++
    "link=" ++
    "https://play.google.com/store/apps/details?id=com.lvmo.tocatef2/dj?" ++
    datosjugada ++
    "&apn" ++
    "com.lvmo.tocatef2.ui.PruebasActivity" ++
    "&st=" ++
    "Comparte esta App" ++
    "&sd=" ++
    "Busca:+Tocate+by+Laury." ++
    "&utm_source=" ++
    "AndroidApp"

/-- `datosJugada` in `onSuccess` of `crearNuevaJugadaRef`. -/
def datosJugada (jugadaId uid : String) : String := jugadaId ++ "-" ++ uid

/-- The `link` part of a long link, up to the next `&`. -/
def getLink (longLink : String) : Option (List Char) :=
  (Cut.afterWord "link=".toList longLink.toList).map fun l =>
    l.takeWhile fun c => c ≠ '&'

/-- The text after the last `?` of the link is `id-uid`, cut at its last
`-`. -/
def Nombra (deepLink id uid : List Char) : Prop :=
  ∃ a, deepLink = a ++ '?' :: (id ++ '-' :: uid) ∧
    '?' ∉ id ++ '-' :: uid ∧ '-' ∉ uid

theorem trasUltimo_eq (c : Char) (s : List Char) :
    trasUltimo c s = Cut.afterLast c s := rfl

theorem hastaUltimo_eq (c : Char) (s : List Char) :
    hastaUltimo c s = Cut.beforeLast c s := by
  unfold hastaUltimo Cut.beforeLast List.rdropWhile
  rw [List.dropLast_reverse]

/-- What is read depends on the text after the last `?` only. -/
theorem leeEnlace_of_enlace {deepLink id uid : List Char}
    (h : Cut.afterLast '?' deepLink = id ++ '-' :: uid) (huid : '-' ∉ uid) :
    leeEnlace deepLink = some (id, uid) := by
  unfold leeEnlace
  rw [trasUltimo_eq, h]
  dsimp only
  rw [hastaUltimo_eq, Cut.beforeLast_append huid, trasUltimo_eq,
    Cut.afterLast_append huid]
  rfl

theorem Nombra.enlace {deepLink id uid : List Char}
    (h : Nombra deepLink id uid) :
    Cut.afterLast '?' deepLink = id ++ '-' :: uid := by
  obtain ⟨a, rfl, hlast, -⟩ := h
  exact Cut.afterLast_append hlast

theorem Nombra.leeEnlace {deepLink id uid : List Char}
    (h : Nombra deepLink id uid) :
    FindGame.leeEnlace deepLink = some (id, uid) := by
  apply leeEnlace_of_enlace h.enlace
  obtain ⟨a, -, -, huid⟩ := h
  exact huid

/-- The page that the link opens where the app is not installed. -/
def pagina : List Char :=
  "https://play.google.com/store/apps/details?id=com.lvmo.tocatef2/dj?".toList

/-- The link names `link=` first, and the data stand before the next `&`. -/
theorem bulidDynamicLink_toList (datosjugada : String) :
    ∃ resto, (bulidDynamicLink datosjugada).toList =
      "https://tocatef2.page.link/?".toList ++
        ("link".toList ++ '=' :: (pagina ++ datosjugada.toList ++ '&' :: resto)) := by
  have hlink : "link=".toList = "link".toList ++ ['='] := rfl
  have hapn : "&apn".toList = ['&'] ++ "apn".toList := rfl
  refine ⟨("apn" ++ "com.lvmo.tocatef2.ui.PruebasActivity" ++ "&st=" ++
    "Comparte esta App" ++ "&sd=" ++ "Busca:+Tocate+by+Laury." ++
    "&utm_source=" ++ "AndroidApp").toList, ?_⟩
  unfold bulidDynamicLink pagina
  simp only [String.toList_append, hlink, hapn, List.append_assoc,
    List.cons_append, List.nil_append]

theorem getLink_bulidDynamicLink {datosjugada : String}
    (h : '&' ∉ datosjugada.toList) :
    getLink (bulidDynamicLink datosjugada) =
      some (pagina ++ datosjugada.toList) := by
  obtain ⟨resto, hlong⟩ := bulidDynamicLink_toList datosjugada
  have hword : "link=".toList = "link".toList ++ ['='] := rfl
  have hlink : '=' ∉ "link".toList := by decide
  have hhost : '=' ∉ "https://tocatef2.page.link/?".toList := by decide
  have hpagina : '&' ∉ pagina ++ datosjugada.toList :=
    List.not_mem_append (by decide) h
  unfold getLink
  rw [hlong, hword, Cut.afterWord_append hlink hhost]
  exact congrArg some (Cut.takeWhile_append_cons hpagina)

/-- A shared link is read back as the game and the player it was made for. -/
theorem enlace_ida_y_vuelta (jugadaId uid : String)
    (hid : '?' ∉ jugadaId.toList ∧ '&' ∉ jugadaId.toList)
    (huid : '-' ∉ uid.toList ∧ '?' ∉ uid.toList ∧ '&' ∉ uid.toList) :
    (getLink (bulidDynamicLink (datosJugada jugadaId uid))).bind leeEnlace =
      some (jugadaId.toList, uid.toList) := by
  have hdatos : (datosJugada jugadaId uid).toList =
      jugadaId.toList ++ '-' :: uid.toList := by
    simp [datosJugada]
  have hsin : ∀ c, c ∉ jugadaId.toList → c ≠ '-' → c ∉ uid.toList →
      c ∉ jugadaId.toList ++ '-' :: uid.toList := by
    intro c hc hguion hc'
    apply List.not_mem_append hc
    exact List.not_mem_cons_of_ne_of_not_mem hguion hc'
  have hamp : '&' ∉ (datosJugada jugadaId uid).toList := by
    rw [hdatos]
    exact hsin '&' hid.2 (by decide) huid.2.2
  rw [getLink_bulidDynamicLink hamp, Option.bind_some, hdatos]
  apply Nombra.leeEnlace
  -- the last question mark is the one that ends the page
  refine ⟨"https://play.google.com/store/apps/details?id=com.lvmo.tocatef2/dj".toList,
    ?_, hsin '?' hid.1 (by decide) huid.2.1, huid.1⟩
  rw [← List.singleton_append, ← List.append_assoc]
  rfl

/-- The id of a game may hold `-`. -/
theorem enlace_ida_y_vuelta_guion :
    (getLink (bulidDynamicLink (datosJugada "g-7" "ana"))).bind leeEnlace =
      some ("g-7".toList, "ana".toList) :=
  enlace_ida_y_vuelta "g-7" "ana" (by decide) (by decide)

/-! ## A link that is broken -/

/-- What `onSuccess` of `getDynamicLink` makes of a link.  `linkRoto` is the
message to the user. -/
structure Recepcion where
  state : FindGame
  writes : List Escritura := []
  buscarJugadaRef : Bool := false
  linkRoto : Bool := false

/-- The field is set before the database is asked for the document, and
`document` says which ids it takes: it throws at the others, and the exception
is caught. -/
def recibe (document : String → Bool) (deepLink : List Char) (f : FindGame) :
    Recepcion :=
  match leeEnlace deepLink with
  | none => { state := f, linkRoto := true }
  | some (idJugadaRef, _) =>
      let f := { f with jugadaId := String.ofList idJugadaRef }
      if document f.jugadaId then
        { state := f
          writes := [.unirse f.jugadaId f.uid]
          buscarJugadaRef := true }
      else { state := f, buscarJugadaRef := true, linkRoto := true }

/-- The screen does the same where only the empty id is refused. -/
theorem linkReception_eq_recibe (deepLink : List Char) (f : FindGame) :
    linkReception (some deepLink) f =
      { state := (recibe (fun id => id ≠ "") deepLink f).state
        writes := (recibe (fun id => id ≠ "") deepLink f).writes } := by
  unfold linkReception recibe
  rw [Option.bind_some]
  cases leeEnlace deepLink with
  | none => rfl
  | some r =>
      dsimp only
      unfold buscarJugadaRef
      by_cases hid : String.ofList r.1 = ""
      · simp [hid, falla]
      · simp [hid]

/-- An event of the screen, or the callback of its oldest open request. -/
inductive Accion where
  | suceso (db : BaseDatos) (e : Suceso)
  | confirma (ok : Bool)

/-- A screen and the requests whose outcome it has not been told. -/
def paso (s : FindGame × List Escritura) :
    Accion → Option (FindGame × List Escritura)
  | .suceso db e => (react db s.1 e).map fun r => (r.1, s.2 ++ r.2)
  | .confirma ok =>
      match s.2 with
      | [] => none
      | w :: pendientes => some (s.1.ack w ok, pendientes)

/-- Whatever happens from here on, the screen has no delete under way. -/
def SinBorrar (s : FindGame × List Escritura) : Prop :=
  ∀ acts t, Runs.run paso s acts = some t → ∀ w ∈ t.2, w.borrada = none

/-- The link has a `?` and ends in a game and a player. -/
def BienFormado (deepLink : List Char) : Prop :=
  ∃ id uid, Nombra deepLink id uid ∧ id ≠ [] ∧ uid ≠ []

/-- A join is attempted for a link in order, and only then; any other is
reported and leaves nothing to delete. -/
structure Cumple (intenta : Prop) (deepLink : List Char) (r : Recepcion)
    (pendientes : List Escritura) : Prop where
  une : intenta ↔ BienFormado deepLink
  linkRoto : ¬BienFormado deepLink → r.linkRoto = true
  jugadaId : ¬BienFormado deepLink → r.state.jugadaId = ""
  onStop : ¬BienFormado deepLink →
    SinBorrar (r.state, pendientes ++ r.writes)

/-! ### Nothing to delete -/

/-- The screen holds no game and no listener, and nothing is on its way. -/
structure Hueca (f : FindGame) : Prop where
  jugadaId : f.jugadaId = ""
  registros : f.registros = []
  eventos : f.eventos = []
  handler : f.handler = 0

variable {db : BaseDatos} {f f' : FindGame} {e : Suceso}

theorem hueca_nueva (uid : String) : Hueca (nueva uid) := ⟨rfl, rfl, rfl, rfl⟩

theorem onStop_hueca (h : Hueca f) : Hueca f.onStop.state := by
  refine ⟨f.onStop_jugadaId.trans h.jugadaId, ?_,
    f.onStop_eventos.trans h.eventos, f.onStop_handler.trans h.handler⟩
  apply List.eq_nil_of_subset_nil
  rw [← h.registros]
  exact f.onStop_registros

/-- Only a join makes the screen hold something. -/
theorem Hueca.cambio (h : Hueca f) (hc : Cambio db f e f')
    (hpide : f.pide e = none) : Hueca f' := by
  cases hc with
  | pinvDirecta partidaID hespera => cases hpide
  | linkReception deepLink g hespera hiniciada hg =>
      have hg' : g = f.jugadaId := by
        rw [hpide] at hg
        exact hg.resolve_right (Option.some_ne_none g).symm
      exact ⟨hg'.trans h.jugadaId, h.registros, h.eventos, h.handler⟩
  | onComplete docs nuevas hespera =>
      have hno : (encontrada f.uid docs).map Prod.fst = none := by
        simpa only [pide, hespera] using hpide
      refine ⟨?_, h.registros, h.eventos, h.handler⟩
      dsimp only
      rw [hno]
      exact h.jugadaId
  | emite n g hreg => exact absurd (h.registros ▸ hreg) List.not_mem_nil
  | calla n snap eventos heventos hcalla =>
      exact absurd (heventos.symm.trans h.eventos) (List.cons_ne_nil _ _)
  | avisa n j g eventos heventos hdos hreg hfull =>
      exact absurd (heventos.symm.trans h.eventos) (List.cons_ne_nil _ _)
  | run hhandler => exact absurd h.handler hhandler.ne'
  | onStop hiniciada => exact onStop_hueca h
  | _ => exact ⟨h.jugadaId, h.registros, h.eventos, h.handler⟩

/-- No reply of the database has ever been waited for. -/
def AntesDelEnlace (f : FindGame) : Prop :=
  f.espera = .onCreate ∨ f.espera = .getDynamicLink

/-- Until the link comes, nothing is created and nothing is joined. -/
theorem AntesDelEnlace.cambio (hc : Cambio db f e f')
    (h : AntesDelEnlace f') :
    AntesDelEnlace f ∧ f.pide e = none ∧ f.creacion e = none := by
  unfold AntesDelEnlace at *
  cases hc with
  | null hespera => exact ⟨Or.inl hespera, rfl, rfl⟩
  | emite n g hreg => exact ⟨h, rfl, rfl⟩
  | calla n snap eventos heventos hcalla => exact ⟨h, rfl, rfl⟩
  | avisa n j g eventos heventos hdos hreg hfull => exact ⟨h, rfl, rfl⟩
  | run hhandler =>
      rw [run_espera] at h
      exact ⟨h, rfl, rfl⟩
  | onStart hespera => exact ⟨h, rfl, rfl⟩
  | onStop hiniciada =>
      rw [onStop_espera] at h
      refine ⟨?_, rfl, rfl⟩
      by_cases hlink : f.espera = .getDynamicLink
      · exact Or.inr hlink
      · rwa [if_neg hlink] at h
  | onBackPressed hiniciada => exact ⟨h, rfl, rfl⟩
  | _ => exact absurd h (by simp)

/-- After the link, nothing is waited for any more. -/
theorem Cambio.espera_nada (hc : Cambio db f e f') (h : f.espera = .nada) :
    f'.espera = .nada ∧ f.pide e = none ∧ f.creacion e = none := by
  cases hc with
  | emite n g hreg => exact ⟨h, rfl, rfl⟩
  | calla n snap eventos heventos hcalla => exact ⟨h, rfl, rfl⟩
  | avisa n j g eventos heventos hdos hreg hfull => exact ⟨h, rfl, rfl⟩
  | run hhandler => exact ⟨f.run_espera.trans h, rfl, rfl⟩
  | onStart hespera => exact ⟨h, rfl, rfl⟩
  | onStop hiniciada =>
      refine ⟨?_, rfl, rfl⟩
      rw [onStop_espera, h]
      rfl
  | onBackPressed hiniciada => exact ⟨h, rfl, rfl⟩
  | pLibre hespera | null hespera | cearDynamickLink nueva hespera
  | Invita IDusuario nueva hespera | pinvDirecta partidaID hespera
  | linkReception deepLink g hespera hiniciada hg
  | responde docs hespera hdocs | noResponde hespera
  | onComplete docs nuevas hespera =>
      exact absurd (h.symm.trans hespera) nofun

theorem Hueca.atiende (h : Hueca f) {t : Turno}
    (ht : FindGame.atiende db f e = some t) (hpide : f.pide e = none)
    (hcrea : f.creacion e = none) : Hueca t.state ∧ t.writes = [] := by
  refine ⟨h.cambio (atiende_cambio ht) hpide, ?_⟩
  apply writes_eq_nil ht hcrea hpide
  cases hborra : f.borra e with
  | none => rfl
  | some g => exact absurd h.jugadaId (borra_eq_some hborra).2.1

theorem paso_eq_some {s s' : FindGame × List Escritura} {a : Accion}
    (h : paso s a = some s') :
    (∃ db e t, atiende db s.1 e = some t ∧
      s' = ((cierra t).1, s.2 ++ t.writes)) ∨
    (∃ w pendientes ok, s.2 = w :: pendientes ∧
      s' = (s.1.ack w ok, pendientes)) := by
  cases a with
  | suceso db e =>
      obtain ⟨⟨f', ws⟩, hreact, rfl⟩ := Option.map_eq_some_iff.mp h
      obtain ⟨-, t, ht, hcierra⟩ := react_eq_some hreact
      obtain ⟨rfl, rfl⟩ := Prod.mk.inj hcierra
      exact Or.inl ⟨db, e, t, ht, rfl⟩
  | confirma ok =>
      simp only [paso] at h
      split at h
      · cases h
      next w pendientes hpend =>
        exact Or.inr ⟨w, pendientes, ok, hpend, (Option.some.inj h).symm⟩

/-- The screen is empty and no request of it is open. -/
def EnBlanco (s : FindGame × List Escritura) : Prop := Hueca s.1 ∧ s.2 = []

theorem EnBlanco.atiende {s : FindGame × List Escritura} (h : EnBlanco s)
    {t : Turno} (ht : FindGame.atiende db s.1 e = some t)
    (hpide : s.1.pide e = none) (hcrea : s.1.creacion e = none) :
    EnBlanco ((cierra t).1, s.2 ++ t.writes) := by
  obtain ⟨hestado, hwrites⟩ := h.1.atiende ht hpide hcrea
  constructor
  · exact ⟨hestado.jugadaId, hestado.registros, hestado.eventos,
      hestado.handler⟩
  · rw [h.2, hwrites]
    rfl

/-- The screen that waits for its link is empty. -/
theorem enBlanco_of_getDynamicLink {uid : String} {acts : List Accion}
    {s : FindGame × List Escritura}
    (hrun : Runs.run paso (nueva uid, []) acts = some s)
    (hespera : s.1.espera = .getDynamicLink) : EnBlanco s := by
  refine Runs.invariant_of_step (I := fun s => AntesDelEnlace s.1 → EnBlanco s)
    ?_ (fun _ => ⟨hueca_nueva uid, rfl⟩) hrun (Or.inr hespera)
  intro s a s' hs hpaso hantes
  obtain ⟨db, e, t, ht, rfl⟩ | ⟨w, pendientes, ok, hpend, rfl⟩ :=
    paso_eq_some hpaso
  · obtain ⟨hprevia, hpide, hcrea⟩ :=
      AntesDelEnlace.cambio (atiende_cambio ht) hantes
    exact (hs hprevia).atiende ht hpide hcrea
  · have hprevia : AntesDelEnlace s.1 := by
      unfold AntesDelEnlace at *
      rwa [ack_espera] at hantes
    exact absurd (hpend.symm.trans (hs hprevia).2) nofun

/-- An empty screen that waits for nothing deletes nothing any more. -/
theorem EnBlanco.sinBorrar {s : FindGame × List Escritura} (h : EnBlanco s)
    (hespera : s.1.espera = .nada) : SinBorrar s := by
  intro acts t hrun w hw
  have hfin : t.1.espera = .nada ∧ EnBlanco t := by
    refine Runs.invariant_of_step
      (I := fun s => s.1.espera = .nada ∧ EnBlanco s) ?_ ⟨hespera, h⟩ hrun
    rintro s a s' ⟨hnada, hs⟩ hpaso
    obtain ⟨db, e, t, ht, rfl⟩ | ⟨w, pendientes, ok, hpend, rfl⟩ :=
      paso_eq_some hpaso
    · obtain ⟨hnada', hpide, hcrea⟩ :=
        (atiende_cambio ht).espera_nada hnada
      exact ⟨hnada', hs.atiende ht hpide hcrea⟩
    · exact absurd (hpend.symm.trans hs.2) nofun
  rw [hfin.2.2] at hw
  exact absurd hw List.not_mem_nil

/-! ### The links that are in order -/

section Received

variable {document : String → Bool} {deepLink id uid : List Char}

/-- A link without `-` after its last `?` is not read at all. -/
theorem recibe_sin_guion (h : '-' ∉ Cut.afterLast '?' deepLink) :
    recibe document deepLink f = { state := f, linkRoto := true } := by
  have hnone : leeEnlace deepLink = none := by
    unfold leeEnlace
    rw [trasUltimo_eq]
    dsimp only
    rw [hastaUltimo_eq, Cut.beforeLast_of_notMem h]
    rfl
  unfold recibe
  rw [hnone]

theorem recibe_con_guion
    (h : Cut.afterLast '?' deepLink = id ++ '-' :: uid) (huid : '-' ∉ uid) :
    recibe document deepLink f =
      if document (String.ofList id) then
        { state := { f with jugadaId := String.ofList id }
          writes := [.unirse (String.ofList id) f.uid]
          buscarJugadaRef := true }
      else
        { state := { f with jugadaId := String.ofList id }
          buscarJugadaRef := true
          linkRoto := true } := by
  unfold recibe
  rw [leeEnlace_of_enlace h huid]

/-- There is only one way to cut a link. -/
theorem Nombra.unica {id' uid' : List Char} (h' : Nombra deepLink id' uid')
    (h : Cut.afterLast '?' deepLink = id ++ '-' :: uid) (huid : '-' ∉ uid) :
    id' = id ∧ uid' = uid := by
  have hlee := h'.leeEnlace.symm.trans (leeEnlace_of_enlace h huid)
  exact Prod.mk.inj (Option.some.inj hlee)

theorem BienFormado.guion (h : BienFormado deepLink) :
    '-' ∈ Cut.afterLast '?' deepLink := by
  obtain ⟨id, uid, hnombra, -, -⟩ := h
  rw [hnombra.enlace]
  exact List.mem_append_right id List.mem_cons_self

variable {intenta : Prop} {r : Recepcion} {pendientes : List Escritura}

theorem cumple_iff_of_bienFormado (h : BienFormado deepLink) :
    Cumple intenta deepLink r pendientes ↔ intenta := by
  constructor
  · intro hcumple
    exact hcumple.une.mpr h
  · intro hintenta
    exact ⟨iff_of_true hintenta h, (absurd h ·), (absurd h ·), (absurd h ·)⟩

/-- A broken link has to leave the field empty. -/
theorem not_cumple (h : ¬BienFormado deepLink) (hid : r.state.jugadaId ≠ "") :
    ¬Cumple intenta deepLink r pendientes :=
  fun hcumple => hid (hcumple.jugadaId h)

theorem cumple_of_enBlanco (h : ¬BienFormado deepLink) (hintenta : ¬intenta)
    (hroto : r.linkRoto = true)
    (hblanco : EnBlanco (r.state, pendientes ++ r.writes))
    (hespera : r.state.espera = .nada) :
    Cumple intenta deepLink r pendientes where
  une := iff_of_false hintenta h
  linkRoto := fun _ => hroto
  jugadaId := fun _ => hblanco.1.jugadaId
  onStop := fun _ => hblanco.sinBorrar hespera

variable (deepLink)

/-- Every link either holds no `-` after its last `?` or is cut at the last
one. -/
theorem enlace_cases : '-' ∉ Cut.afterLast '?' deepLink ∨
    ∃ id uid, Cut.afterLast '?' deepLink = id ++ '-' :: uid ∧ '-' ∉ uid := by
  by_cases hguion : '-' ∈ Cut.afterLast '?' deepLink
  · exact Or.inr (Cut.exists_last hguion)
  · exact Or.inl hguion

end Received

/-- The requests sent are those of a link in order, and any other link is
reported and leaves nothing to delete. -/
def CumpleUnirse (document : String → Bool) (deepLink : List Char)
    (s : FindGame × List Escritura) : Prop :=
  let r := recibe document deepLink { s.1 with espera := .nada }
  Cumple (r.writes ≠ []) deepLink r s.2

/-- The same with the call of `buscarJugadaRef` in the place of its request. -/
def CumpleBuscar (document : String → Bool) (deepLink : List Char)
    (s : FindGame × List Escritura) : Prop :=
  let r := recibe document deepLink { s.1 with espera := .nada }
  Cumple (r.buscarJugadaRef = true) deepLink r s.2

section Broken

variable {document : String → Bool} {deepLink id uid : List Char}
  {s : FindGame × List Escritura}

/-- The screen stays empty with the empty id. -/
theorem EnBlanco.sigue (hs : EnBlanco s) {idJugadaRef : String}
    (hid : idJugadaRef = "") :
    EnBlanco ({ s.1 with espera := .nada, jugadaId := idJugadaRef },
      s.2 ++ []) := by
  refine ⟨⟨hid, hs.1.registros, hs.1.eventos, hs.1.handler⟩, ?_⟩
  rw [hs.2]
  rfl

theorem cumple_sin_guion (hs : EnBlanco s)
    (h : '-' ∉ Cut.afterLast '?' deepLink) :
    CumpleUnirse document deepLink s ∧ CumpleBuscar document deepLink s := by
  have hmal : ¬BienFormado deepLink := fun hbien => h hbien.guion
  have hblanco := hs.sigue hs.1.jugadaId
  unfold CumpleUnirse CumpleBuscar
  dsimp only
  rw [recibe_sin_guion h]
  constructor
  · exact cumple_of_enBlanco hmal (fun h => h rfl) rfl hblanco rfl
  · exact cumple_of_enBlanco hmal nofun rfl hblanco rfl

/-- Where the game is missing, the refusal of the database is what reports the
link. -/
theorem cumpleUnirse_sin_juego (hvacio : document "" = false) (hs : EnBlanco s)
    (h : Cut.afterLast '?' deepLink = [] ++ '-' :: uid) (huid : '-' ∉ uid) :
    CumpleUnirse document deepLink s := by
  have hmal : ¬BienFormado deepLink := by
    rintro ⟨id, uid', hnombra, hid, -⟩
    exact hid (hnombra.unica h huid).1
  have hblanco := hs.sigue rfl
  unfold CumpleUnirse
  dsimp only
  rw [recibe_con_guion h huid, String.ofList_nil, if_neg (by simp [hvacio])]
  exact cumple_of_enBlanco hmal (fun h => h rfl) rfl hblanco rfl

theorem cumpleUnirse_con_juego
    (h : Cut.afterLast '?' deepLink = id ++ '-' :: uid) (huid : '-' ∉ uid)
    (hid : id ≠ []) :
    CumpleUnirse document deepLink s ↔
      BienFormado deepLink ∧ document (String.ofList id) = true := by
  unfold CumpleUnirse
  dsimp only
  rw [recibe_con_guion h huid]
  by_cases hbien : BienFormado deepLink
  · rw [cumple_iff_of_bienFormado hbien, and_iff_right hbien]
    cases document (String.ofList id) with
    | true => exact iff_of_true nofun rfl
    | false => exact iff_of_false (fun h => h rfl) nofun
  · refine iff_of_false (not_cumple hbien ?_) fun h => hbien h.1
    have hcampo : String.ofList id ≠ "" := fun hempty =>
      hid (String.ofList_eq_empty_iff.mp hempty)
    split
    · exact hcampo
    · exact hcampo

theorem cumpleBuscar_con_guion
    (h : Cut.afterLast '?' deepLink = id ++ '-' :: uid)
    (huid : '-' ∉ uid) :
    CumpleBuscar document deepLink s ↔ BienFormado deepLink := by
  have hbusca : (recibe document deepLink
      { s.1 with espera := .nada }).buscarJugadaRef = true := by
    rw [recibe_con_guion h huid]
    split
    · rfl
    · rfl
  unfold CumpleBuscar
  dsimp only
  constructor
  · intro hcumple
    exact hcumple.une.mp hbusca
  · intro hbien
    exact (cumple_iff_of_bienFormado hbien).mpr hbusca

end Broken

/-- The link is dealt with as it should be exactly when it has no `-` after
its last `?`, or nothing before that `-`, or is in order and names a document;
if a call that is refused counts as a join, when it has no `-` there or is in
order. -/
theorem enlace_roto_iff {document : String → Bool}
    (hvacio : document "" = false) {uid : String} {acts : List Accion}
    {s : FindGame × List Escritura}
    (hrun : Runs.run paso (nueva uid, []) acts = some s)
    (hespera : s.1.espera = .getDynamicLink) (deepLink : List Char) :
    (CumpleUnirse document deepLink s ↔
      '-' ∉ Cut.afterLast '?' deepLink ∨
        (∃ idJugadorUno, '-' ∉ idJugadorUno ∧
          Cut.afterLast '?' deepLink = '-' :: idJugadorUno) ∨
        ∃ id uid, Nombra deepLink id uid ∧ id ≠ [] ∧ uid ≠ [] ∧
          document (String.ofList id) = true) ∧
    (CumpleBuscar document deepLink s ↔
      '-' ∉ Cut.afterLast '?' deepLink ∨ BienFormado deepLink) := by
  have hs := enBlanco_of_getDynamicLink hrun hespera
  obtain hguion | ⟨id, uid, henlace, huid⟩ := enlace_cases deepLink
  · obtain ⟨hunirse, hbuscar⟩ := cumple_sin_guion hs hguion
    exact ⟨iff_of_true hunirse (Or.inl hguion),
      iff_of_true hbuscar (Or.inl hguion)⟩
  · have hguion : '-' ∈ Cut.afterLast '?' deepLink := by
      rw [henlace]
      exact List.mem_append_right id List.mem_cons_self
    rw [or_iff_right (not_not_intro hguion),
      or_iff_right (not_not_intro hguion)]
    refine ⟨?_, cumpleBuscar_con_guion henlace huid⟩
    by_cases hid : id = []
    · subst hid
      exact iff_of_true (cumpleUnirse_sin_juego hvacio hs henlace huid)
        (Or.inl ⟨uid, huid, henlace⟩)
    · rw [cumpleUnirse_con_juego henlace huid hid]
      constructor
      · rintro ⟨⟨id', uid', hnombra, hid', huid'⟩, hdoc⟩
        obtain ⟨rfl, -⟩ := hnombra.unica henlace huid
        exact Or.inr ⟨id', uid', hnombra, hid', huid', hdoc⟩
      · rintro (⟨uid', hno, hvacia⟩ | ⟨id', uid', hnombra, hid', huid', hdoc⟩)
        · -- cut at its last hyphen, the link has no game
          rw [← List.nil_append ('-' :: uid')] at hvacia
          have hlee := (leeEnlace_of_enlace henlace huid).symm.trans
            (leeEnlace_of_enlace hvacia hno)
          exact absurd (Prod.mk.inj (Option.some.inj hlee)).1 hid
        · obtain ⟨rfl, -⟩ := hnombra.unica henlace huid
          exact ⟨⟨id', uid', hnombra, hid', huid'⟩, hdoc⟩

/-- A screen that a link has opened. -/
def abierta (uid : String) : FindGame × List Escritura :=
  ({ nueva uid with espera := .getDynamicLink, iniciada := true }, [])

/-- The link of a game whose id holds `-`; no document has the empty id. -/
theorem enlace_en_orden :
    CumpleUnirse (fun id => id ≠ "") "https://play.google.com/dj?g-7-ana".toList
        (abierta "eva") ∧
      CumpleBuscar (fun id => id ≠ "")
        "https://play.google.com/dj?g-7-ana".toList (abierta "eva") := by
  have hnombra : Nombra "https://play.google.com/dj?g-7-ana".toList "g-7".toList
      "ana".toList :=
    ⟨"https://play.google.com/dj".toList, by decide, by decide, by decide⟩
  have hrun : Runs.run paso (nueva "eva", [])
      [.suceso BaseDatos.vacia (.onCreate .null),
        .suceso BaseDatos.vacia .onStart] = some (abierta "eva") := rfl
  have hiff := @enlace_roto_iff (fun id => id ≠ "") rfl "eva" _ _ hrun rfl
    "https://play.google.com/dj?g-7-ana".toList
  refine ⟨hiff.1.mpr (Or.inr (Or.inr ?_)), hiff.2.mpr (Or.inr ?_)⟩
  · exact ⟨_, _, hnombra, by decide, by decide, by decide⟩
  · exact ⟨_, _, hnombra, by decide, by decide⟩

/-- A link that has lost its player: the screen joins the game all the same,
and deletes it when it is left. -/
theorem borra_enlace_roto :
    ¬BienFormado "https://play.google.com/dj?g-".toList ∧
      ¬CumpleUnirse (fun id => id ≠ "") "https://play.google.com/dj?g-".toList
        (abierta "eva") ∧
      ¬CumpleBuscar (fun id => id ≠ "") "https://play.google.com/dj?g-".toList
        (abierta "eva") ∧
      ∃ r, r = recibe (fun id => id ≠ "") "https://play.google.com/dj?g-".toList
          { (abierta "eva").1 with espera := .nada } ∧
        r.linkRoto = false ∧
        (paso (r.state, r.writes) (.suceso BaseDatos.vacia .onStop)).map
            Prod.snd =
          some [.unirse "g" "eva", .deleteJugada "g"] := by
  have henlace : Cut.afterLast '?' "https://play.google.com/dj?g-".toList =
      ['g'] ++ '-' :: [] := by decide
  have hmal : ¬BienFormado "https://play.google.com/dj?g-".toList := by
    rintro ⟨id, uid, hnombra, -, huid⟩
    exact huid (hnombra.unica henlace List.not_mem_nil).2
  refine ⟨hmal, not_cumple hmal ?_, not_cumple hmal ?_, _, rfl, ?_, ?_⟩
  · decide
  · decide
  · decide
  · decide

end Tocate.FindGame
