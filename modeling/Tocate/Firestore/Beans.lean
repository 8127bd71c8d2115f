import Tocate.Lib.Fields
import Tocate.Users.Sessions

/-!
# The objects as documents

Firestore stores an object under the names that its getters give, and fills an
object through its setters; the screens also name fields in their updates,
queries and reads.  The names agree: the database of documents answers every
write as the one of records does, and shows the records after any number of
them.

`create` is written and read with a game, and nothing else depends on it.
-/

namespace Tocate.Firestore

open Fields

inductive Valor where
  | nulo
  | cadena (s : String)
  | numero (n : ℤ)
  /-- Milliseconds of a `Date`. -/
  | fecha (t : ℕ)
deriving DecidableEq, Repr

/-! ## Getters and setters -/

/-- The field behind a getter or a setter: what follows the first three letters,
with the leading capitals made small. -/
def serializedName (methodName : String) : String :=
  let stripped := methodName.toList.drop 3
  String.ofList ((stripped.takeWhile Char.isUpper).map Char.toLower ++
    stripped.dropWhile Char.isUpper)

/-- The document of an object with these getters. -/
def documento (getters : List (String × Valor)) : Doc Valor :=
  Doc.of (getters.map fun p => (serializedName p.1, p.2))

def getters (create : Valor) (j : Jugada) : List (String × Valor) :=
  [("getJugadorUnoID", .cadena j.jugadorUnoID),
    ("getJugadorDosID", .cadena j.jugadorDosID),
    ("getInvitacionID", .cadena j.invitacionID),
    ("getPuntosjugadorUnoID", .numero j.puntosjugadorUnoID),
    ("getPuntosjugadorDosID", .numero j.puntosjugadorDosID),
    ("getGanadorID", .cadena j.ganadorID),
    ("getAbandonoID", .cadena j.abandonoID),
    ("getTocate", .numero j.tocate),
    ("getCreate", create)]

def gettersUser (u : User) : List (String × Valor) :=
  [("getName", .cadena u.name),
    ("getFoto", .cadena u.foto),
    ("getGameDone", .numero u.gameDone),
    ("getPoints", .numero u.points),
    ("getOnline", u.Online.elim .nulo .cadena)]

/-- What a setter of a string is given; `none` where the field stays `null`. -/
def setCadena (d : Doc Valor) (setter : String) : Option String :=
  match d (serializedName setter) with
  | some (.cadena s) => some s
  | _ => none

/-- What a setter of a number is given; without a field it stays zero. -/
def setNumero (d : Doc Valor) (setter : String) : Option ℤ :=
  match d (serializedName setter) with
  | none => some 0
  | some (.numero n) => some n
  | _ => none

/-- `toObject(Jugada.class)`, with `create`; `none` where a field of the object
would be `null` or a value does not fit. -/
def toJugada (d : Doc Valor) : Option (Jugada × Valor) := do
  let jugadorUnoID ← setCadena d "setJugadorUnoID"
  let jugadorDosID ← setCadena d "setJugadorDosID"
  let invitacionID ← setCadena d "setInvitacionID"
  let puntosjugadorUnoID ← setNumero d "setPuntosjugadorUnoID"
  let puntosjugadorDosID ← setNumero d "setPuntosjugadorDosID"
  let ganadorID ← setCadena d "setGanadorID"
  let abandonoID ← setCadena d "setAbandonoID"
  let tocate ← setNumero d "setTocate"
  let create ← d (serializedName "setCreate")
  let jugada : Jugada :=
    { jugadorUnoID, jugadorDosID, ganadorID, abandonoID, invitacionID
      tocate := tocate.toNat
      puntosjugadorUnoID, puntosjugadorDosID }
  return (jugada, create)

/-- `toObject(User.class)`; `online` may be `null`. -/
def toUser (d : Doc Valor) : Option User := do
  let name ← setCadena d "setName"
  let foto ← setCadena d "setFoto"
  let gameDone ← setNumero d "setGameDone"
  let points ← setNumero d "setPoints"
  return { name, foto, gameDone, points, Online := setCadena d "setOnline" }

theorem documento_getters (create : Valor) (j : Jugada) :
    documento (getters create j) =
      Doc.of [("jugadorUnoID", .cadena j.jugadorUnoID),
        ("jugadorDosID", .cadena j.jugadorDosID),
        ("invitacionID", .cadena j.invitacionID),
        ("puntosjugadorUnoID", .numero j.puntosjugadorUnoID),
        ("puntosjugadorDosID", .numero j.puntosjugadorDosID),
        ("ganadorID", .cadena j.ganadorID),
        ("abandonoID", .cadena j.abandonoID),
        ("tocate", .numero j.tocate),
        ("create", create)] := by
  simp [documento, getters, serializedName]

theorem documento_gettersUser (u : User) :
    documento (gettersUser u) =
      Doc.of [("name", .cadena u.name), ("foto", .cadena u.foto),
        ("gameDone", .numero u.gameDone), ("points", .numero u.points),
        ("online", u.Online.elim .nulo .cadena)] := by
  simp [documento, gettersUser, serializedName]

@[simp] theorem toJugada_documento (create : Valor) (j : Jugada) :
    toJugada (documento (getters create j)) = some (j, create) := by
  rw [documento_getters]
  simp [toJugada, setCadena, setNumero, Doc.of, List.lookup_cons, serializedName]

@[simp] theorem toUser_documento (u : User) :
    toUser (documento (gettersUser u)) = some u := by
  obtain ⟨name, foto, gameDone, points, online⟩ := u
  rw [documento_gettersUser]
  cases online with
  | none => simp [toUser, setCadena, setNumero, Doc.of, List.lookup_cons, serializedName]
  | some o => simp [toUser, setCadena, setNumero, Doc.of, List.lookup_cons, serializedName]

/-! ## Writes -/

/-- What the screens write. -/
inductive Orden where
  /-- A game is written with its `create`. -/
  | escribe (w : Escritura) (create : Valor)
  /-- `update("online", onLine)`. -/
  | online (uid onLine : String)
deriving DecidableEq, Repr

/-- The request, as the source spells it. -/
def peticion : Orden → Request Valor
  | .escribe (.addJugada id j) create =>
      .add "jugadas" id (documento (getters create j))
  | .escribe (.setJugada id j) create | .escribe (.reclamar id j) create =>
      .set "jugadas" id (documento (getters create j))
  | .escribe (.unirse id uid) _ =>
      .update "jugadas" id [("jugadorDosID", .cadena uid)]
  | .escribe (.rechazar id uid) _ =>
      .update "jugadas" id
        [("jugadorDosID", .cadena uid), ("abandonoID", .cadena uid)]
  | .escribe (.deleteJugada id) _ => .delete "jugadas" id
  | .escribe (.setUser uid l) _ =>
      .set "users" uid (documento (gettersUser l.user))
  | .online uid onLine => .update "users" uid [("online", .cadena onLine)]

/-- The same write in the database of records. -/
def aplica (db : BaseDatos) : Orden → BaseDatos × Bool
  | .escribe w _ => db.aplicar w
  | .online uid onLine =>
      (Sesiones.ponOnline db uid onLine, (db.users uid).isSome)

/-! ## The documents show the records -/

def Documenta (d : Doc Valor) (j : Jugada) : Prop :=
  ∃ create, d = documento (getters create j)

def DocumentaUser (d : Doc Valor) (u : User) : Prop :=
  d = documento (gettersUser u)

structure Representa (s : Store Valor) (db : BaseDatos) : Prop where
  jugadas : Shows Documenta (s.docs "jugadas") db.jugadas
  users : Shows DocumentaUser (s.docs "users") db.users
  dados : ∀ id, s.given "jugadas" id = (db.creador id).isSome

theorem representa_vacia : Representa Store.empty .vacia where
  jugadas := fun _ => .none
  users := fun _ => .none
  dados := fun _ => rfl

theorem Documenta.put_jugadorDosID {d : Doc Valor} {j : Jugada}
    (h : Documenta d j) (uid : String) :
    Documenta (d.put [("jugadorDosID", .cadena uid)])
      { j with jugadorDosID := uid } := by
  obtain ⟨create, rfl⟩ := h
  refine ⟨create, ?_⟩
  rw [documento_getters, documento_getters, Doc.put_of _ (by rfl)]
  simp [renew]

theorem Documenta.put_abandonoID {d : Doc Valor} {j : Jugada}
    (h : Documenta d j) (uid : String) :
    Documenta (d.put [("abandonoID", .cadena uid)])
      { j with abandonoID := uid } := by
  obtain ⟨create, rfl⟩ := h
  refine ⟨create, ?_⟩
  rw [documento_getters, documento_getters, Doc.put_of _ (by rfl)]
  simp [renew]

theorem DocumentaUser.put_online {d : Doc Valor} {u : User}
    (h : DocumentaUser d u) (onLine : String) :
    DocumentaUser (d.put [("online", .cadena onLine)])
      { u with Online := some onLine } := by
  rw [DocumentaUser, h, documento_gettersUser, documento_gettersUser,
    Doc.put_of _ (by rfl)]
  simp [renew]

section Representa

variable {s : Store Valor} {db : BaseDatos}

/-- A game is put, or taken away. -/
theorem Representa.withDoc (h : Representa s db) (id : String)
    {o : Option (Doc Valor)} {r : Option Jugada}
    (hr : Option.Rel Documenta o r) :
    Representa (s.withDoc "jugadas" id o) (db.conJugada id r) where
  jugadas := by
    rw [Store.withDoc_self]
    exact h.jugadas.update id hr
  users := by
    rw [Store.withDoc_ne s id o (by decide)]
    exact h.users
  dados := h.dados

theorem Representa.withUser (h : Representa s db) (uid : String)
    {d : Doc Valor} {u : User} (hu : DocumentaUser d u) :
    Representa (s.withDoc "users" uid (some d)) (db.conUser uid u) where
  jugadas := by
    rw [Store.withDoc_ne s uid _ (by decide)]
    exact h.jugadas
  users := by
    rw [Store.withDoc_self]
    exact h.users.update uid (.some hu)
  dados := h.dados

/-- An update of a game is made on both sides, or fails on both. -/
theorem Representa.update (h : Representa s db) (id : String)
    {fields : List (String × Valor)} {f : Jugada → Jugada}
    (hf : ∀ d j, Documenta d j → Documenta (d.put fields) (f j)) :
    Representa (s.serve (.update "jugadas" id fields)).1 (db.update id f).1 ∧
      (s.serve (.update "jugadas" id fields)).2 = (db.update id f).2 := by
  cases hj : db.jugadas id with
  | none =>
      rw [Store.serve_update_none ((h.jugadas.none_iff id).mpr hj),
        BaseDatos.update_none hj]
      exact ⟨h, rfl⟩
  | some j =>
      obtain ⟨d, hd, hdoc⟩ := h.jugadas.some_right hj
      rw [Store.serve_update_some hd, BaseDatos.update_some hj]
      exact ⟨h.withDoc id (.some (hf d j hdoc)), rfl⟩

theorem Representa.serve (h : Representa s db) (orden : Orden) :
    Representa (s.serve (peticion orden)).1 (aplica db orden).1 ∧
      (s.serve (peticion orden)).2 = (aplica db orden).2 := by
  cases orden with
  | online uid onLine =>
      simp only [peticion, aplica, Sesiones.ponOnline]
      cases hu : db.users uid with
      | none =>
          rw [Store.serve_update_none ((h.users.none_iff uid).mpr hu)]
          exact ⟨h, rfl⟩
      | some u =>
          obtain ⟨d, hd, hdoc⟩ := h.users.some_right hu
          rw [Store.serve_update_some hd]
          exact ⟨h.withUser uid (hdoc.put_online onLine), rfl⟩
  | escribe w create =>
      cases w with
      | addJugada id j =>
          have hdado := h.dados id
          simp only [peticion, Store.serve, aplica, BaseDatos.aplicar]
          cases hc : db.creador id with
          | some uno =>
              rw [hc, Option.isSome_some] at hdado
              rw [if_pos hdado]
              exact ⟨h, rfl⟩
          | none =>
              rw [hc] at hdado
              rw [if_neg (by simp [hdado])]
              have hpuesta := h.withDoc id
                (.some (⟨create, rfl⟩ : Documenta (documento (getters create j)) j))
              refine ⟨⟨hpuesta.jugadas, hpuesta.users, ?_⟩, rfl⟩
              intro id'
              by_cases hid : id' = id
              · subst hid
                simp [BaseDatos.conCreador]
              · simp [BaseDatos.conCreador, hid, h.dados id']
      | setJugada id j =>
          exact ⟨h.withDoc id (.some ⟨create, rfl⟩), rfl⟩
      | reclamar id j =>
          exact ⟨h.withDoc id (.some ⟨create, rfl⟩), rfl⟩
      | unirse id uid =>
          exact h.update id fun d j hd => hd.put_jugadorDosID uid
      | rechazar id uid =>
          refine h.update id fun d j hd => ?_
          have hdos := (hd.put_abandonoID uid).put_jugadorDosID uid
          rwa [Doc.put_put] at hdos
      | deleteJugada id => exact ⟨h.withDoc id .none, rfl⟩
      | setUser uid l => exact ⟨h.withUser uid rfl, rfl⟩

end Representa

/-- A database of documents that shows the records at some time goes on to do
so: each write has the same outcome in both, and the objects that the screens
make of the documents are the records. -/
theorem documentos_fieles {s : Store Valor} {db : BaseDatos}
    (h : Representa s db) (ordenes : List Orden) :
    let fin := replies Store.serve s (ordenes.map peticion)
    let fin' := replies aplica db ordenes
    fin.2 = fin'.2 ∧
      (∀ id, (fin.1.docs "jugadas" id).bind (fun d => (toJugada d).map Prod.fst) =
        fin'.1.jugadas id) ∧
      ∀ uid, (fin.1.docs "users" uid).bind toUser = fin'.1.users uid := by
  obtain ⟨hfin, hout⟩ := replies_simulate (R := Representa)
    (fun _ _ orden h => h.serve orden) h ordenes
  refine ⟨hout, fun id => ?_, fun uid => ?_⟩
  · refine hfin.jugadas.bind_eq ?_ id
    rintro d j ⟨create, rfl⟩
    rw [toJugada_documento]
    rfl
  · refine hfin.users.bind_eq ?_ uid
    rintro d u rfl
    exact toUser_documento u

/-- `b` joins the game of `a`; nobody has a record yet. -/
theorem documentos_fieles_blas :
    ∃ s : Store Valor × List Bool,
      s = replies Store.serve .empty
        ([Orden.escribe (.addJugada "g" (.nueva "a" "b")) (.fecha 7),
          .escribe (.unirse "g" "b") .nulo, .online "b" "off"].map peticion) ∧
      s.2 = [true, true, false] ∧
      (s.1.docs "jugadas" "g").bind (fun d => (toJugada d).map Prod.fst) =
        some { Jugada.nueva "a" "b" with jugadorDosID := "b" } := by
  obtain ⟨hout, hjugadas, -⟩ := documentos_fieles representa_vacia
    [.escribe (.addJugada "g" (.nueva "a" "b")) (.fecha 7),
      .escribe (.unirse "g" "b") .nulo, .online "b" "off"]
  exact ⟨_, rfl, hout.trans (by decide), (hjugadas "g").trans (by decide)⟩

end Tocate.Firestore
