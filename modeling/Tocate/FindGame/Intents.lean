import Tocate.FindGame.Links

/-!
# The intents that open the search screen

`optenerTipoJugada` reads two strings from the intent.  The screen is exported,
so that any app may send any strings, whether or not somebody is signed in; the
screens of this app send five kinds of them.
-/

namespace Tocate.FindGame

open Cloud

/-- `EXTRA_TIPO_PARTIDA` and `EXTRA_JUGADA_ID`. -/
structure Intent where
  tipoPartida : Option String := none
  partidaID : Option String := none
deriving DecidableEq, Repr

namespace Intent

/-! ## Reading an intent -/

/-- `substring(0,6)` throws where the text is shorter, and `document` says which
ids the database takes: it throws at the others, and at `null`. -/
def optenerTipoJugada (document : String → Bool) (nueva : String) (i : Intent)
    (f : FindGame) : Turno :=
  match i.tipoPartida with
  | none => sigue { f with espera := .getDynamicLink }
  | some tipoPartida =>
      let f := { f with espera := .nada }
      if longitud tipoPartida.toList < 6 then falla f
      else if tipoPartida.toList.take 6 = "Invita".toList then
        crearNuevaJugadaRef nueva
          (String.ofList (trasUltimo '?' tipoPartida.toList))
          { f with crearInv := false }
      else if tipoPartida = "pinvDirecta" then
        match i.partidaID with
        | none => falla f
        | some partidaID =>
            let f := { f with jugadaId := partidaID }
            if document partidaID then
              { state := f, writes := [.unirse partidaID f.uid] }
            else falla f
      else if tipoPartida = "pLibre" then
        sigue { f with espera := .get, crearInv := false }
      else if tipoPartida = "cearDynamickLink" then
        crearNuevaJugadaRef nueva f.uid { f with crearInv := true }
      else sigue f

/-- The mode in which the intent asks the screen to open, if it is one. -/
def tipo (nueva : String) (i : Intent) : Option TipoPartida :=
  match i.tipoPartida with
  | none => some .null
  | some tipoPartida =>
      if tipoPartida.toList.take 6 = "Invita".toList then
        some (.Invita (String.ofList (trasUltimo '?' tipoPartida.toList)) nueva)
      else if tipoPartida = "pinvDirecta" then
        i.partidaID.map .pinvDirecta
      else if tipoPartida = "pLibre" then some .pLibre
      else if tipoPartida = "cearDynamickLink" then
        some (.cearDynamickLink nueva)
      else none

/-- The extras that take the screen down. -/
def Roto (document : String → Bool) (i : Intent) : Prop :=
  ∃ tipoPartida, i.tipoPartida = some tipoPartida ∧
    (longitud tipoPartida.toList < 6 ∨
      tipoPartida = "pinvDirecta" ∧ ∀ id ∈ i.partidaID, document id = false)

/-! ## The intents of the app -/

/-- `buttonBuscarPartida`. -/
def buttonBuscarPartida : Intent where
  tipoPartida := some "pLibre"

/-- `buttonOnline`. -/
def buttonOnline : Intent where
  tipoPartida := some "cearDynamickLink"

/-- `BtInvitar` in the row of a user. -/
def BtInvitar (foto : String) : Intent where
  tipoPartida := some ("Invita?" ++ foto)

/-- The dialog and the notification of an invitation. -/
def pinvDirecta (jugadaId : Option String) : Intent where
  tipoPartida := some "pinvDirecta"
  partidaID := jugadaId

/-- A link opens the screen without extras. -/
def deEnlace : Intent := {}

variable {document : String → Bool} {nueva : String} {i : Intent}
  {f : FindGame} {tipoPartida : String}

/-- What begins with the word is long enough to be read. -/
theorem not_longitud_of_take
    (h : tipoPartida.toList.take 6 = "Invita".toList) :
    ¬longitud tipoPartida.toList < 6 := by
  have hlength := congrArg List.length h
  rw [List.length_take, show "Invita".toList.length = 6 from rfl] at hlength
  have hle := length_le_longitud tipoPartida.toList
  omega

/-! ### The modes -/

theorem tipo_buttonBuscarPartida (nueva : String) :
    buttonBuscarPartida.tipo nueva = some .pLibre := by
  unfold tipo buttonBuscarPartida
  dsimp only
  rw [if_neg (by decide), if_neg (by decide), if_pos rfl]

theorem tipo_buttonOnline (nueva : String) :
    buttonOnline.tipo nueva = some (.cearDynamickLink nueva) := by
  unfold tipo buttonOnline
  dsimp only
  rw [if_neg (by decide), if_neg (by decide), if_neg (by decide), if_pos rfl]

theorem tipo_pinvDirecta (nueva : String) (jugadaId : Option String) :
    (pinvDirecta jugadaId).tipo nueva = jugadaId.map .pinvDirecta := by
  unfold tipo pinvDirecta
  dsimp only
  rw [if_neg (by decide), if_pos rfl]

theorem tipo_BtInvitar (nueva foto : String) :
    (BtInvitar foto).tipo nueva =
      some (.Invita (String.ofList
        (Cut.afterLast '?' ("Invita?" ++ foto).toList)) nueva) := by
  have htake : ("Invita?" ++ foto).toList.take 6 = "Invita".toList := by
    rw [String.toList_append]
    exact List.take_left' (show "Invita".toList.length = 6 from rfl)
  unfold tipo BtInvitar
  dsimp only
  rw [if_pos htake, trasUltimo_eq]

/-- The user of the row is the one invited exactly where the id has no `?`. -/
theorem tipo_BtInvitar_iff (nueva foto : String) :
    (BtInvitar foto).tipo nueva = some (.Invita foto nueva) ↔
      '?' ∉ foto.toList := by
  have htoList : ("Invita?" ++ foto).toList =
      "Invita".toList ++ '?' :: foto.toList := by
    rw [String.toList_append]
    rfl
  rw [tipo_BtInvitar, htoList]
  constructor
  · intro h
    have hfoto : String.ofList (Cut.afterLast '?'
        ("Invita".toList ++ '?' :: foto.toList)) = foto := by
      injection Option.some.inj h
    rw [← hfoto, String.toList_ofList]
    exact Cut.notMem_afterLast
  · intro h
    rw [Cut.afterLast_append h, String.ofList_toList]

/-! ### What the screen makes of an intent -/

/-- The mode of an intent beside what `optenerTipoJugada` does. -/
inductive Lectura (document : String → Bool) (nueva : String) (f : FindGame) :
    Intent → Option TipoPartida → Turno → Prop where
  | null (partidaID : Option String) :
      Lectura document nueva f ⟨none, partidaID⟩ (some .null)
        (FindGame.optenerTipoJugada .null f)
  | corta (tipoPartida : String) (partidaID : Option String)
      (hcorta : longitud tipoPartida.toList < 6) :
      Lectura document nueva f ⟨some tipoPartida, partidaID⟩ none
        (falla { f with espera := .nada })
  | Invita (tipoPartida IDusuario : String) (partidaID : Option String)
      (hinvita : tipoPartida.toList.take 6 = "Invita".toList)
      (hID : IDusuario = String.ofList (trasUltimo '?' tipoPartida.toList)) :
      Lectura document nueva f ⟨some tipoPartida, partidaID⟩
        (some (.Invita IDusuario nueva))
        (FindGame.optenerTipoJugada (.Invita IDusuario nueva) f)
  | sinPartida :
      Lectura document nueva f ⟨some "pinvDirecta", none⟩ none
        (falla { f with espera := .nada })
  | pinvDirecta (id : String) (hid : document id = true) :
      Lectura document nueva f ⟨some "pinvDirecta", some id⟩
        (some (.pinvDirecta id))
        { state := { f with espera := .nada, jugadaId := id }
          writes := [.unirse id f.uid] }
  | rehusada (id : String) (hid : document id = false) :
      Lectura document nueva f ⟨some "pinvDirecta", some id⟩
        (some (.pinvDirecta id))
        (falla { f with espera := .nada, jugadaId := id })
  | pLibre (partidaID : Option String) :
      Lectura document nueva f ⟨some "pLibre", partidaID⟩ (some .pLibre)
        (FindGame.optenerTipoJugada .pLibre f)
  | cearDynamickLink (partidaID : Option String) :
      Lectura document nueva f ⟨some "cearDynamickLink", partidaID⟩
        (some (.cearDynamickLink nueva))
        (FindGame.optenerTipoJugada (.cearDynamickLink nueva) f)
  | otra (tipoPartida : String) (partidaID : Option String)
      (hlarga : ¬longitud tipoPartida.toList < 6)
      (hdirecta : tipoPartida ≠ "pinvDirecta") :
      Lectura document nueva f ⟨some tipoPartida, partidaID⟩ none
        (sigue { f with espera := .nada })

/-- `pinvDirecta` is followed by an id, which may be refused. -/
theorem lectura_pinvDirecta (partidaID : Option String) :
    Lectura document nueva f (pinvDirecta partidaID)
      ((pinvDirecta partidaID).tipo nueva)
      ((pinvDirecta partidaID).optenerTipoJugada document nueva f) := by
  rw [tipo_pinvDirecta]
  unfold optenerTipoJugada pinvDirecta
  dsimp only
  rw [if_neg (by decide), if_neg (by decide), if_pos rfl]
  cases partidaID with
  | none => exact .sinPartida
  | some id =>
      dsimp only
      split
      next hid => exact .pinvDirecta id hid
      next hid => exact .rehusada id (Bool.eq_false_iff.mpr hid)

theorem lectura (document : String → Bool) (nueva : String) (f : FindGame)
    (i : Intent) :
    Lectura document nueva f i (i.tipo nueva)
      (i.optenerTipoJugada document nueva f) := by
  obtain ⟨tipoPartida, partidaID⟩ := i
  cases tipoPartida with
  | none => exact .null partidaID
  | some tipoPartida =>
      by_cases hdirecta : tipoPartida = "pinvDirecta"
      · subst hdirecta
        exact lectura_pinvDirecta partidaID
      · unfold optenerTipoJugada tipo
        dsimp only
        by_cases hinvita : tipoPartida.toList.take 6 = "Invita".toList
        · rw [if_pos hinvita, if_neg (not_longitud_of_take hinvita),
            if_pos hinvita]
          exact .Invita tipoPartida _ partidaID hinvita rfl
        · rw [if_neg hinvita, if_neg hinvita, if_neg hdirecta, if_neg hdirecta]
          by_cases hlibre : tipoPartida = "pLibre"
          · subst hlibre
            exact .pLibre partidaID
          · rw [if_neg hlibre, if_neg hlibre]
            by_cases hlink : tipoPartida = "cearDynamickLink"
            · subst hlink
              exact .cearDynamickLink partidaID
            · rw [if_neg hlink, if_neg hlink]
              split
              next hcorta => exact .corta tipoPartida partidaID hcorta
              next hlarga => exact .otra tipoPartida partidaID hlarga hdirecta

/-- Where the empty id alone is refused, an intent with a mode is what the
typed screen makes of that mode. -/
theorem optenerTipoJugada_of_tipo {t : TipoPartida}
    (h : i.tipo nueva = some t) :
    i.optenerTipoJugada (fun id => id ≠ "") nueva f =
      FindGame.optenerTipoJugada t f := by
  have hlee := lectura (fun id => id ≠ "") nueva f i
  rw [h] at hlee
  generalize i.optenerTipoJugada (fun id => id ≠ "") nueva f = r at hlee
  cases hlee with
  | pinvDirecta id hid =>
      unfold FindGame.optenerTipoJugada buscarJugadaRef
      dsimp only
      rw [if_neg (of_decide_eq_true hid)]
  | rehusada id hid =>
      unfold FindGame.optenerTipoJugada buscarJugadaRef
      dsimp only
      rw [if_pos (by simpa using hid)]
  | _ => rfl

/-- What the program itself sends, beside the mode that is meant by it. -/
inductive Enviado (nueva : String) : Intent → TipoPartida → Prop where
  | buttonBuscarPartida : Enviado nueva buttonBuscarPartida .pLibre
  | buttonOnline : Enviado nueva buttonOnline (.cearDynamickLink nueva)
  | BtInvitar (foto : String) (h : '?' ∉ foto.toList) :
      Enviado nueva (BtInvitar foto) (.Invita foto nueva)
  | pinvDirecta (jugadaId : String) :
      Enviado nueva (pinvDirecta (some jugadaId)) (.pinvDirecta jugadaId)
  | deEnlace : Enviado nueva deEnlace .null

theorem Enviado.tipo {t : TipoPartida} (h : Enviado nueva i t) :
    i.tipo nueva = some t := by
  cases h with
  | buttonBuscarPartida => exact tipo_buttonBuscarPartida nueva
  | buttonOnline => exact tipo_buttonOnline nueva
  | BtInvitar foto hfoto => exact (tipo_BtInvitar_iff nueva foto).mpr hfoto
  | pinvDirecta jugadaId => exact tipo_pinvDirecta nueva (some jugadaId)
  | deEnlace => rfl

/-- The strings of the program open the typed screens. -/
theorem Enviado.optenerTipoJugada {t : TipoPartida} (h : Enviado nueva i t) :
    i.optenerTipoJugada (fun id => id ≠ "") nueva f =
      FindGame.optenerTipoJugada t f := by
  exact optenerTipoJugada_of_tipo h.tipo

/-! ## The screen that an intent opens -/

/-- The screen after `onCreate`, and its requests: `getUid()` throws where
nobody is signed in, before the extras are read. -/
def abre (document : String → Bool) (firebaseUser : Option String)
    (nueva : String) (i : Intent) : FindGame × List Escritura :=
  match firebaseUser with
  | none => cierra (falla (FindGame.nueva ""))
  | some uid => cierra (i.optenerTipoJugada document nueva (FindGame.nueva uid))

theorem abre_some (document : String → Bool) (uid nueva : String) (i : Intent) :
    abre document (some uid) nueva i =
      cierra (i.optenerTipoJugada document nueva (FindGame.nueva uid)) := rfl

/-- No request is open, no match has been started, and the screen is down or
holds nothing and waits for nothing. -/
structure Parada (s : FindGame × List Escritura) : Prop where
  pendientes : s.2 = []
  empezadas : s.1.empezadas = []
  espera : s.1.caida = true ∨ Hueca s.1 ∧ s.1.espera = .nada

/-- An empty screen starts no match. -/
theorem empezadas_of_hueca {db : BaseDatos} {f' : FindGame} {e : Suceso}
    (hc : Cambio db f e f') (h : Hueca f) : f'.empezadas = f.empezadas := by
  cases hc with
  | run hhandler => exact absurd h.handler hhandler.ne'
  | onStop hiniciada => exact f.onStop_empezadas
  | _ => rfl

theorem Parada.paso {s s' : FindGame × List Escritura} {a : Accion}
    (h : Parada s) (hpaso : FindGame.paso s a = some s') : Parada s' := by
  cases a with
  | confirma ok =>
      simp only [FindGame.paso, h.pendientes] at hpaso
      cases hpaso
  | suceso db e =>
      obtain ⟨⟨f', ws⟩, hreact, rfl⟩ := Option.map_eq_some_iff.mp hpaso
      obtain ⟨hviva, t, ht, hcierra⟩ := react_eq_some hreact
      obtain ⟨rfl, rfl⟩ := Prod.mk.inj hcierra
      obtain hcaida | ⟨hhueca, hespera⟩ := h.espera
      · rw [hviva] at hcaida
        cases hcaida
      · have hc := atiende_cambio ht
        obtain ⟨hnada, hpide, hcrea⟩ := hc.espera_nada hespera
        obtain ⟨hestado, hwrites⟩ := hhueca.atiende ht hpide hcrea
        refine ⟨?_, (empezadas_of_hueca hc hhueca).trans h.empezadas,
          Or.inr ⟨⟨hestado.jugadaId, hestado.registros, hestado.eventos,
            hestado.handler⟩, hnada⟩⟩
        rw [h.pendientes, hwrites]
        rfl

/-- A screen at a standstill stays there. -/
theorem Parada.run {s t : FindGame × List Escritura} {acts : List Accion}
    (h : Parada s) (hrun : Runs.run FindGame.paso s acts = some t) : Parada t :=
  Runs.invariant_of_step (fun _ _ _ hs hpaso => hs.paso hpaso) h hrun

variable {uid : String}

theorem abre_writes_of_Invita {IDusuario : String}
    (h : i.tipo nueva = some (.Invita IDusuario nueva)) :
    (i.abre document (some uid) nueva).2 =
      [.addJugada nueva (Jugada.nueva uid IDusuario)] := by
  have hlee := lectura document nueva (FindGame.nueva uid) i
  rw [abre_some]
  rw [h] at hlee
  generalize i.optenerTipoJugada document nueva (FindGame.nueva uid) = r at hlee
  cases hlee with
  | Invita tipoPartida _ partidaID hinvita hID => rfl

/-- The request that the button of a row sends names the user of the row
exactly where the id has no `?`. -/
theorem abre_BtInvitar_iff (document : String → Bool) (uid nueva foto : String) :
    ((BtInvitar foto).abre document (some uid) nueva).2 =
        [.addJugada nueva (Jugada.nueva uid foto)] ↔
      '?' ∉ foto.toList := by
  rw [← tipo_BtInvitar_iff nueva foto]
  have htipo := tipo_BtInvitar nueva foto
  rw [abre_writes_of_Invita htipo, htipo]
  constructor
  · intro h
    have hfoto : String.ofList (Cut.afterLast '?'
        ("Invita?" ++ foto).toList) = foto :=
      congrArg Jugada.invitacionID (Escritura.addJugada.inj (List.head_eq_of_cons_eq h)).2
    rw [hfoto]
  · intro h
    injection Option.some.inj h with hfoto
    rw [hfoto]

/-- With a user the screen is taken down as it opens where the extras are not
in order. -/
theorem caida_abre_iff (uid nueva : String) :
    (abre document (some uid) nueva i).1.caida = true ↔ i.Roto document := by
  have hlee := lectura document nueva (FindGame.nueva uid) i
  rw [abre_some]
  generalize i.tipo nueva = t at hlee
  generalize i.optenerTipoJugada document nueva (FindGame.nueva uid) = r at hlee
  have hlarga : ∀ {tipoPartida : String} {id : Option String},
      ¬longitud tipoPartida.toList < 6 → tipoPartida ≠ "pinvDirecta" →
      ¬(⟨some tipoPartida, id⟩ : Intent).Roto document := by
    rintro s id hlarga hdirecta ⟨s', ⟨⟩, hcorta | ⟨hdirecta', -⟩⟩
    · exact hlarga hcorta
    · exact hdirecta hdirecta'
  cases hlee with
  | null partidaID =>
      refine iff_of_false nofun ?_
      rintro ⟨s, ⟨⟩, -⟩
  | corta tipoPartida partidaID hcorta =>
      exact iff_of_true rfl ⟨tipoPartida, rfl, Or.inl hcorta⟩
  | Invita tipoPartida IDusuario partidaID hinvita hID =>
      refine iff_of_false nofun (hlarga (not_longitud_of_take hinvita) ?_)
      rintro rfl
      exact absurd hinvita (by decide)
  | sinPartida =>
      exact iff_of_true rfl ⟨_, rfl, Or.inr ⟨rfl, fun id h => by cases h⟩⟩
  | pinvDirecta id hid =>
      refine iff_of_false nofun ?_
      rintro ⟨s, ⟨⟩, hcorta | ⟨-, hno⟩⟩
      · exact absurd hcorta (by decide)
      · exact absurd (hno id rfl) (by rw [hid]; decide)
  | rehusada id hid =>
      refine iff_of_true rfl ⟨_, rfl, Or.inr ⟨rfl, fun id' h => ?_⟩⟩
      cases h
      exact hid
  | pLibre partidaID => exact iff_of_false nofun (hlarga (by decide) (by decide))
  | cearDynamickLink partidaID =>
      exact iff_of_false nofun (hlarga (by decide) (by decide))
  | otra tipoPartida partidaID hlarga' hdirecta =>
      exact iff_of_false nofun (hlarga hlarga' hdirecta)

/-- What is out of order or unknown leaves the screen at a standstill. -/
theorem parada_abre (h : i.Roto document ∨ i.tipo nueva = none) :
    Parada (abre document (some uid) nueva i) := by
  rw [← caida_abre_iff uid nueva] at h
  have hlee := lectura document nueva (FindGame.nueva uid) i
  rw [abre_some] at h ⊢
  generalize i.tipo nueva = t at h hlee
  generalize i.optenerTipoJugada document nueva (FindGame.nueva uid) = r at h hlee
  cases hlee with
  | corta tipoPartida partidaID hcorta => exact ⟨rfl, rfl, Or.inl rfl⟩
  | sinPartida => exact ⟨rfl, rfl, Or.inl rfl⟩
  | rehusada id hid => exact ⟨rfl, rfl, Or.inl rfl⟩
  | otra tipoPartida partidaID hlarga hdirecta =>
      exact ⟨rfl, rfl, Or.inr ⟨⟨rfl, rfl, rfl, rfl⟩, rfl⟩⟩
  | _ => exact h.elim nofun nofun

/-- Some run of the screen sends a request or starts a match. -/
def Atendido (document : String → Bool) (firebaseUser : Option String)
    (nueva : String) (i : Intent) : Prop :=
  ∃ acts t,
    Runs.run FindGame.paso (abre document firebaseUser nueva i) acts = some t ∧
      (t.2 ≠ [] ∨ t.1.empezadas ≠ [])

/-- Every mode leads to a request: at once, or with the reply that is waited
for. -/
theorem atendido_of_tipo (hroto : ¬i.Roto document) {t : TipoPartida}
    (h : i.tipo nueva = some t) : i.Atendido document (some uid) nueva := by
  rw [← caida_abre_iff uid nueva] at hroto
  have hlee := lectura document nueva (FindGame.nueva uid) i
  unfold Atendido
  rw [abre_some] at hroto
  simp only [abre_some]
  rw [h] at hlee
  generalize i.optenerTipoJugada document nueva (FindGame.nueva uid) = r
    at hroto hlee
  cases hlee with
  | null partidaID =>
      exact ⟨[.suceso BaseDatos.vacia .onStart,
        .suceso BaseDatos.vacia (.linkReception (some "g-u".toList))],
        _, rfl, Or.inl (List.cons_ne_nil _ _)⟩
  | Invita tipoPartida IDusuario partidaID hinvita hID =>
      exact ⟨[], _, rfl, Or.inl (List.cons_ne_nil _ _)⟩
  | pinvDirecta id hid => exact ⟨[], _, rfl, Or.inl (List.cons_ne_nil _ _)⟩
  | rehusada id hid => exact absurd rfl hroto
  | pLibre partidaID =>
      exact ⟨[.suceso BaseDatos.vacia (.responde []),
        .suceso BaseDatos.vacia (.onComplete ["g"])],
        _, rfl, Or.inl (List.cons_ne_nil _ _)⟩
  | cearDynamickLink partidaID =>
      exact ⟨[], _, rfl, Or.inl (List.cons_ne_nil _ _)⟩

/-- Without a user the screen never sends anything. -/
theorem parada_sinUsuario : Parada (abre document none nueva i) :=
  ⟨rfl, rfl, Or.inl rfl⟩

/-- A screen that opens at a standstill answers nothing. -/
theorem Parada.not_atendido {firebaseUser : Option String}
    (h : Parada (abre document firebaseUser nueva i)) :
    ¬i.Atendido document firebaseUser nueva := by
  rintro ⟨acts, t, hrun, hhace⟩
  have hparada := h.run hrun
  exact hhace.elim (· hparada.pendientes) (· hparada.empezadas)

/-- With a user the screen survives any intent but those out of order, and only
what asks for a mode ever makes it send a request or start a match; without one
no intent does. -/
theorem intent_atendido_iff (document : String → Bool)
    (firebaseUser : Option String) (nueva : String) (i : Intent) :
    ((abre document firebaseUser nueva i).1.caida = true ↔
        firebaseUser = none ∨ i.Roto document) ∧
      (i.Atendido document firebaseUser nueva ↔
        firebaseUser ≠ none ∧ ¬i.Roto document ∧ i.tipo nueva ≠ none) := by
  cases firebaseUser with
  | none =>
      exact ⟨iff_of_true rfl (Or.inl rfl),
        iff_of_false parada_sinUsuario.not_atendido fun h => h.1 rfl⟩
  | some uid =>
      have huser : some uid ≠ none := Option.some_ne_none uid
      rw [or_iff_right huser, and_iff_right huser]
      refine ⟨caida_abre_iff uid nueva, fun h => ?_, ?_⟩
      · rw [← not_or]
        exact fun hquieta => (parada_abre hquieta).not_atendido h
      · rintro ⟨hroto, htipo⟩
        obtain ⟨t, ht⟩ := Option.ne_none_iff_exists'.mp htipo
        exact atendido_of_tipo hroto ht

/-- An id with a `/` takes the screen down, and so does any intent where nobody
is signed in; the button for a new game is answered. -/
theorem intent_atendido_ana :
    (abre (fun id => '/' ∉ id.toList) (some "ana") "g"
        (pinvDirecta (some "a/b"))).1.caida = true ∧
      (abre (fun id => '/' ∉ id.toList) none "g" buttonOnline).1.caida = true ∧
      buttonOnline.Atendido (fun id => '/' ∉ id.toList) (some "ana") "g" := by
  refine ⟨(intent_atendido_iff _ _ _ _).1.mpr
      (Or.inr ⟨_, rfl, Or.inr ⟨rfl, ?_⟩⟩),
    (intent_atendido_iff _ _ _ _).1.mpr (Or.inl rfl),
    (intent_atendido_iff _ _ _ _).2.mpr ⟨nofun, ?_, ?_⟩⟩
  · rintro id ⟨⟩
    decide
  · rintro ⟨s, ⟨⟩, hcorta | ⟨hdirecta, -⟩⟩
    · exact absurd hcorta (by decide)
    · exact absurd hdirecta (by decide)
  · rw [tipo_buttonOnline]
    exact Option.some_ne_none _

end Intent

end Tocate.FindGame
