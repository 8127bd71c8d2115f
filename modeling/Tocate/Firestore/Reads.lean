import Tocate.Firestore.Beans
import Tocate.Transision.Online
import Mathlib.Data.List.Forall2

/-!
# What the screens read of documents

The free search, the waiting screen, the menu and the list of those online are
handed documents.  They name fields to test them, with an exception where a
field is missing, and make objects of what suits.  On documents that show
records none of this fails, and the handlers do what they do to the records.
-/

namespace Tocate

open Fields Cloud

namespace Firestore

/-- `doc.get(name).equals(s)`: an exception where there is no value. -/
def equals (d : Doc Valor) (name s : String) : Option Bool :=
  match d name with
  | none => none
  | some .nulo => none
  | some v => some (decide (v = .cadena s))

end Firestore

open Firestore

/-! ## FindGameActivity -/

namespace FindGame.Docs

abbrev Turno := Outcome FindGame (Request Valor)

def sigue (f : FindGame) : Turno := { state := f }

def falla (f : FindGame) : Turno := { state := f, failed := true }

/-- `onEvent` of the listener; the document may be gone. -/
def onEvent (documentSnapshot : Option (Doc Valor)) (f : FindGame) : Turno :=
  match documentSnapshot.bind fun d => equals d "jugadorDosID" "" with
  | none => falla f
  | some false => sigue { f with handler := f.handler + 1 }
  | some true => sigue f

/-- The game is created at `ahora`. -/
def crearNuevaJugada (ahora : Valor) (id : String) (f : FindGame) : Turno where
  state := f
  writes :=
    [.add "jugadas" id (documento (getters ahora (Jugada.nueva f.uid "")))]

/-- The tests of the loop: the game is no invitation and somebody else's. -/
def conviene (uid : String) (docJugada : Doc Valor) : Option Bool :=
  (equals docJugada "invitacionID" "").bind fun libre =>
    if libre then (equals docJugada "jugadorUnoID" uid).map (!·)
    else some false

def recorre (ahora : Valor) :
    List (String × Doc Valor) → List String → FindGame → Turno
  | [], _, f => sigue f
  | (id, docJugada) :: docs, nuevas, f =>
      match conviene f.uid docJugada with
      | none => falla f
      | some true =>
          match toJugada docJugada with
          | none => falla f
          | some (jugada, create) =>
              { state := { f with jugadaId := id }
                writes :=
                  [.set "jugadas" id
                    (documento (getters create
                      { jugada with jugadorDosID := f.uid }))] }
      | some false =>
          (crearNuevaJugada ahora (nuevas.headD "") f).andThen
            (recorre ahora docs nuevas.tail)

/-- `onComplete` of the query of `buscarJugadaLibre`. -/
def onComplete (ahora : Valor) (docs : List (String × Doc Valor))
    (nuevas : List String) (f : FindGame) : Turno :=
  if docs.length = 0 then crearNuevaJugada ahora (nuevas.headD "") f
  else recorre ahora docs nuevas f

end FindGame.Docs

/-! ## TransisionActivity -/

namespace Transision.Docs

/-- The four tests that `onEvent` makes on a document, one inside the other. -/
def pendiente (uid : String) (doc : Doc Valor) : Option Bool :=
  (equals doc "jugadorUnoID" uid).bind fun suya =>
    if suya then some false
    else
      (equals doc "jugadorDosID" "").bind fun libre =>
        if libre then
          (equals doc "abandonoID" "").bind fun seguida =>
            if seguida then equals doc "ganadorID" "" else some false
        else some false

/-- The id of the first document that passes them. -/
def encontrada (uid : String) :
    List (String × Doc Valor) → Option (Option String)
  | [] => some none
  | (id, doc) :: value =>
      (pendiente uid doc).bind fun pasa =>
        if pasa then some (some id) else encontrada uid value

/-- `onEvent` of the invitation query; an error comes without documents. -/
def onEvent (value : Option (List (String × Doc Valor))) (m : Transision) :
    Turno :=
  match value with
  | none => sigue m
  | some value =>
      match encontrada m.uid value with
      | none => falla m
      | some none => sigue m
      | some (some id) =>
          let m := { m with jugadaId := some id }
          if m.jPausado then crearNotificacionInterna id m
          else
            sigue { dialogo_NotificacionJugada m with tiponoti := some .notifica }

end Transision.Docs

/-! ## UserOnlineFragment -/

namespace UserOnlineFragment.Docs

/-- The loop over the documents. -/
def recorre : List (Doc Valor) → UserOnlineFragment → Turno
  | [], f => sigue f
  | doc :: value, f =>
      match f.currentUser.bind (equals doc "foto") with
      | none => falla f
      | some true => recorre value { f with adapter := some f.userList }
      | some false =>
          match toUser doc with
          | none => falla f
          | some userItem =>
              let userList := f.userList ++ [userItem]
              recorre value
                { f with userList := userList, adapter := some userList }

def onEvent (value : Option (List (Doc Valor))) (f : UserOnlineFragment) :
    Turno :=
  match value with
  | none => if f.adjunto then sigue f else falla f
  | some value => recorre value { f with userList := [] }

end UserOnlineFragment.Docs

/-! ## The tests -/

namespace Firestore

variable {d : Doc Valor} {j : Jugada} {u : User} {uid : String}

/-- The fields of a game that are tested by name. -/
def probados : List (String × (Jugada → String)) :=
  [("jugadorUnoID", Jugada.jugadorUnoID), ("jugadorDosID", Jugada.jugadorDosID),
    ("invitacionID", Jugada.invitacionID), ("abandonoID", Jugada.abandonoID),
    ("ganadorID", Jugada.ganadorID)]

theorem Documenta.lee (h : Documenta d j) (p : String × (Jugada → String))
    (hp : p ∈ probados) : d p.1 = some (.cadena (p.2 j)) := by
  obtain ⟨create, rfl⟩ := h
  rw [documento_getters]
  simp only [probados, List.mem_cons, List.not_mem_nil, or_false] at hp
  rcases hp with rfl | rfl | rfl | rfl | rfl
  all_goals rfl

/-- A test finds its field. -/
theorem Documenta.equals (h : Documenta d j)
    (p : String × (Jugada → String)) (hp : p ∈ probados) (s : String) :
    equals d p.1 s = some (decide (p.2 j = s)) := by
  simp [Firestore.equals, h.lee p hp]

theorem DocumentaUser.equals_foto (h : DocumentaUser d u) (s : String) :
    equals d "foto" s = some (decide (u.foto = s)) := by
  rw [DocumentaUser, documento_gettersUser] at h
  subst h
  simp [Firestore.equals, Doc.of, List.lookup_cons]

theorem conviene_eq (h : Documenta d j) (uid : String) :
    FindGame.Docs.conviene uid d =
      some (decide (j.invitacionID = "" ∧ j.jugadorUnoID ≠ uid)) := by
  have hinv := h.equals ("invitacionID", Jugada.invitacionID)
    (by simp [probados]) ""
  have huno := h.equals ("jugadorUnoID", Jugada.jugadorUnoID)
    (by simp [probados]) uid
  dsimp only at hinv huno
  rw [FindGame.Docs.conviene, hinv, huno]
  by_cases hlibre : j.invitacionID = ""
  · simp [hlibre]
  · simp [hlibre]

theorem pendiente_eq (h : Documenta d j) (uid : String) :
    Transision.Docs.pendiente uid d = some (Transision.pendiente uid j) := by
  have huno := h.equals ("jugadorUnoID", Jugada.jugadorUnoID)
    (by simp [probados]) uid
  have hdos := h.equals ("jugadorDosID", Jugada.jugadorDosID)
    (by simp [probados]) ""
  have habandono := h.equals ("abandonoID", Jugada.abandonoID)
    (by simp [probados]) ""
  have hganador := h.equals ("ganadorID", Jugada.ganadorID)
    (by simp [probados]) ""
  dsimp only at huno hdos habandono hganador
  rw [Transision.Docs.pendiente, huno, hdos, habandono, hganador]
  by_cases hsuya : j.jugadorUnoID = uid
  · simp [Transision.pendiente, hsuya]
  · by_cases hlibre : j.jugadorDosID = ""
    · by_cases hseguida : j.abandonoID = ""
      · simp [Transision.pendiente, hsuya, hlibre, hseguida]
      · simp [Transision.pendiente, hsuya, hlibre, hseguida]
    · simp [Transision.pendiente, hsuya, hlibre]

/-! ## The handlers -/

/-- The documents of an answer and the records that they show. -/
def Leidos {α : Type*} (R : Doc Valor → α → Prop)
    (docs : List (String × Doc Valor)) (records : List (String × α)) : Prop :=
  List.Forall₂ (fun p q => p.1 = q.1 ∧ R p.2 q.2) docs records

/-- The request makes the write, with some `create`. -/
def Pide (r : Request Valor) (w : Escritura) : Prop :=
  ∃ create, r = peticion (.escribe w create)

/-- The search does the same, and asks for the writes. -/
structure Igual (t : FindGame.Docs.Turno) (t' : FindGame.Turno) : Prop where
  state : t.state = t'.state
  failed : t.failed = t'.failed
  writes : List.Forall₂ Pide t.writes t'.writes

theorem Igual.andThen {t : FindGame.Docs.Turno} {t' : FindGame.Turno}
    {g : FindGame → FindGame.Docs.Turno} {g' : FindGame → FindGame.Turno}
    (h : Igual t t') (hg : ∀ f, Igual (g f) (g' f)) :
    Igual (t.andThen g) (t'.andThen g') := by
  obtain ⟨f, ws, failed⟩ := t
  obtain ⟨f', ws', failed'⟩ := t'
  obtain ⟨hstate, hfailed, hwrites⟩ := h
  dsimp only at hstate hfailed hwrites
  subst hstate hfailed
  cases failed with
  | true => exact ⟨rfl, rfl, hwrites⟩
  | false =>
      obtain ⟨hs, hf, hw⟩ := hg f
      exact ⟨hs, hf, List.rel_append hwrites hw⟩

theorem igual_crearNuevaJugada (ahora : Valor) (id : String) (f : FindGame) :
    Igual (FindGame.Docs.crearNuevaJugada ahora id f)
      (f.crearNuevaJugada id) where
  state := rfl
  failed := rfl
  writes := .cons ⟨ahora, rfl⟩ .nil

theorem igual_onEvent {o : Option (Doc Valor)} {r : Option Jugada}
    (h : Option.Rel Documenta o r) (f : FindGame) :
    Igual (FindGame.Docs.onEvent o f) (f.onEvent r) := by
  cases h with
  | none => exact ⟨rfl, rfl, .nil⟩
  | @some d j hd =>
      have hdos := hd.equals ("jugadorDosID", Jugada.jugadorDosID)
        (by simp [probados]) ""
      dsimp only at hdos
      simp only [FindGame.Docs.onEvent, FindGame.onEvent, Option.bind_some, hdos]
      by_cases hlibre : j.jugadorDosID = ""
      · rw [decide_eq_true hlibre, if_neg (not_not.mpr hlibre)]
        exact ⟨rfl, rfl, .nil⟩
      · rw [decide_eq_false hlibre, if_pos hlibre]
        exact ⟨rfl, rfl, .nil⟩

theorem igual_recorre {docs : List (String × Doc Valor)}
    {records : List (String × Jugada)} (h : Leidos Documenta docs records)
    (ahora : Valor) (nuevas : List String) (f : FindGame) :
    Igual (FindGame.Docs.recorre ahora docs nuevas f)
      (FindGame.recorre records nuevas f) := by
  induction h generalizing nuevas f with
  | nil => exact ⟨rfl, rfl, .nil⟩
  | @cons p q docs records hpq _ ih =>
      obtain ⟨id, d⟩ := p
      obtain ⟨id', j⟩ := q
      obtain ⟨rfl, hd⟩ := hpq
      dsimp only at hd
      by_cases hconviene : j.invitacionID = "" ∧ j.jugadorUnoID ≠ f.uid
      · obtain ⟨create, rfl⟩ := hd
        have hc := conviene_eq (⟨create, rfl⟩ : Documenta _ j) f.uid
        rw [decide_eq_true hconviene] at hc
        simp only [FindGame.Docs.recorre, FindGame.recorre, hc,
          toJugada_documento, if_pos hconviene]
        exact ⟨rfl, rfl, .cons ⟨create, rfl⟩ .nil⟩
      · have hc := conviene_eq hd f.uid
        rw [decide_eq_false hconviene] at hc
        simp only [FindGame.Docs.recorre, FindGame.recorre, hc,
          if_neg hconviene]
        exact (igual_crearNuevaJugada ahora _ f).andThen fun f' =>
          ih nuevas.tail f'

theorem igual_onComplete {docs : List (String × Doc Valor)}
    {records : List (String × Jugada)} (h : Leidos Documenta docs records)
    (ahora : Valor) (nuevas : List String) (f : FindGame) :
    Igual (FindGame.Docs.onComplete ahora docs nuevas f)
      (f.onComplete records nuevas) := by
  unfold FindGame.Docs.onComplete FindGame.onComplete
  rw [h.length_eq]
  by_cases hnada : records.length = 0
  · rw [if_pos hnada, if_pos hnada]
    exact igual_crearNuevaJugada ahora _ f
  · rw [if_neg hnada, if_neg hnada]
    exact igual_recorre h ahora nuevas f

theorem encontrada_eq {docs : List (String × Doc Valor)}
    {records : List (String × Jugada)} (h : Leidos Documenta docs records)
    (uid : String) :
    Transision.Docs.encontrada uid docs =
      some ((Transision.encontrada uid records).map Prod.fst) := by
  induction h with
  | nil => rfl
  | @cons p q docs records hpq _ ih =>
      obtain ⟨id, d⟩ := p
      obtain ⟨id', j⟩ := q
      obtain ⟨rfl, hd⟩ := hpq
      dsimp only at hd
      rw [Transision.Docs.encontrada, pendiente_eq hd, Option.bind_some, ih]
      cases hpasa : Transision.pendiente uid j with
      | true => simp [Transision.encontrada, hpasa]
      | false => simp [Transision.encontrada, hpasa]

theorem onEvent_eq {docs : List (String × Doc Valor)}
    {records : List (String × Jugada)} (h : Leidos Documenta docs records)
    (m : Transision) :
    Transision.Docs.onEvent (some docs) m = m.onEvent (some records) := by
  simp only [Transision.Docs.onEvent, Transision.onEvent, encontrada_eq h,
    Option.bind_some]
  cases Transision.encontrada m.uid records with
  | none => rfl
  | some p => rfl

theorem recorre_eq {docs : List (String × Doc Valor)}
    {records : List (String × User)} (h : Leidos DocumentaUser docs records)
    (f : UserOnlineFragment) :
    UserOnlineFragment.Docs.recorre (docs.map Prod.snd) f =
      UserOnlineFragment.recorre (records.map Prod.snd) f := by
  induction h generalizing f with
  | nil => rfl
  | @cons p q docs records hpq _ ih =>
      obtain ⟨id, d⟩ := p
      obtain ⟨id', u⟩ := q
      obtain ⟨rfl, hd⟩ := hpq
      dsimp only at hd
      cases huid : f.currentUser with
      | none =>
          simp only [List.map_cons, UserOnlineFragment.Docs.recorre,
            UserOnlineFragment.recorre, huid, Option.bind_none]
      | some uid =>
          have hfoto := hd.equals_foto uid
          by_cases hsuya : u.foto = uid
          · simp [UserOnlineFragment.Docs.recorre, UserOnlineFragment.recorre,
              huid, hfoto, hsuya, ih]
          · obtain rfl := hd
            simp [UserOnlineFragment.Docs.recorre, UserOnlineFragment.recorre,
              huid, hfoto, hsuya, ih]

/-! ## Answers of the server -/

/-- Documents that the collection has, in any order. -/
def Respuesta (s : Store Valor) (coll : String)
    (docs : List (String × Doc Valor)) : Prop :=
  ∀ p ∈ docs, s.docs coll p.1 = some p.2

/-- The records under the same ids. -/
def registros {α : Type*} (table : String → Option α)
    (docs : List (String × Doc Valor)) : List (String × α) :=
  docs.filterMap fun p => (table p.1).map (Prod.mk p.1)

theorem leidos_registros {α : Type*} {R : Doc Valor → α → Prop}
    {s : Store Valor} {coll : String} {table : String → Option α}
    (h : Shows R (s.docs coll) table) {docs : List (String × Doc Valor)}
    (hdocs : Respuesta s coll docs) :
    Leidos R docs (registros table docs) := by
  induction docs with
  | nil => exact .nil
  | cons p docs ih =>
      obtain ⟨hp, hrest⟩ := List.forall_mem_cons.mp hdocs
      obtain ⟨a, ha, hR⟩ := h.some_left hp
      have hcons : registros table (p :: docs) =
          (p.1, a) :: registros table docs := by
        simp [registros, ha]
      rw [hcons]
      exact .cons ⟨rfl, hR⟩ (ih hrest)

/-- After any writes, the queries for equal fields find the documents of the
records that have the values, and the handlers that are given documents of the
database do what they do to the records: no field is missing, no object fails to
be made, and what the search asks for makes its writes. -/
theorem lecturas_fieles {s : Store Valor} {db : BaseDatos}
    (h : Representa s db) (ordenes : List Orden) :
    let fin := (replies Store.serve s (ordenes.map peticion)).1
    let fin' := (replies aplica db ordenes).1
    (∀ p ∈ probados, ∀ v id, fin.Finds "jugadas" p.1 (.cadena v) id ↔
        ∃ j, fin'.jugadas id = some j ∧ p.2 j = v) ∧
      (∀ v uid, fin.Finds "users" "online" (.cadena v) uid ↔
        ∃ u, fin'.users uid = some u ∧ u.Online = some v) ∧
      (∀ docs, Respuesta fin "jugadas" docs →
        (∀ ahora nuevas f, Igual (FindGame.Docs.onComplete ahora docs nuevas f)
          (f.onComplete (registros fin'.jugadas docs) nuevas)) ∧
        ∀ m, Transision.Docs.onEvent (some docs) m =
          m.onEvent (some (registros fin'.jugadas docs))) ∧
      (∀ id f, Igual (FindGame.Docs.onEvent (fin.docs "jugadas" id) f)
        (f.onEvent (fin'.jugadas id))) ∧
      ∀ docs, Respuesta fin "users" docs → ∀ f,
        UserOnlineFragment.Docs.onEvent (some (docs.map Prod.snd)) f =
          f.onEvent (some ((registros fin'.users docs).map Prod.snd)) := by
  obtain ⟨hfin, -⟩ := replies_simulate (R := Representa)
    (fun _ _ orden h => h.serve orden) h ordenes
  refine ⟨fun p hp v id => ?_, fun v uid => ?_, fun docs hdocs => ⟨?_, ?_⟩, ?_,
    ?_⟩
  · refine hfin.jugadas.finds_iff (fun d j hd => ?_) id
    rw [hd.lee p hp, Option.some.injEq, Valor.cadena.injEq]
  · refine hfin.users.finds_iff (fun d u hd => ?_) uid
    rw [DocumentaUser, documento_gettersUser] at hd
    subst hd
    cases hon : u.Online with
    | none => simp [Doc.of, List.lookup_cons]
    | some o => simp [Doc.of, List.lookup_cons]
  · intro ahora nuevas f
    exact igual_onComplete (leidos_registros hfin.jugadas hdocs) ahora nuevas f
  · intro m
    exact onEvent_eq (leidos_registros hfin.jugadas hdocs) m
  · intro id f
    exact igual_onEvent (hfin.jugadas id) f
  · intro docs hdocs f
    exact recorre_eq (leidos_registros hfin.users hdocs) { f with userList := [] }

/-- A game that has been created is found by a free search. -/
theorem lecturas_fieles_ana :
    (replies Store.serve .empty
      ([Orden.escribe (.addJugada "g" (.nueva "a" "")) (.fecha 7)].map
        peticion)).1.Finds "jugadas" "jugadorDosID" (.cadena "") "g" :=
  ((lecturas_fieles representa_vacia _).1
    ("jugadorDosID", Jugada.jugadorDosID) (by simp [probados]) "" "g").mpr
    ⟨.nueva "a" "", rfl, rfl⟩

end Firestore

end Tocate
