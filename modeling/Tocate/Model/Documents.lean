import Mathlib.Data.Int.Notation
import Mathlib.Data.Nat.Notation

/-!
# The documents of the game

A `Jugada` is one match and lives in the collection `jugadas`; a `User` is the
record of one player and lives in `users`.  The empty string stands for a seat,
a winner or an abandonment that is not there yet, as in the source.  Scores,
points and games are `int` there and stay far from `2^31`, so that integers
without wrap-around stand for them.
-/

namespace Tocate

structure Jugada where
  jugadorUnoID : String
  jugadorDosID : String
  ganadorID : String
  abandonoID : String
  invitacionID : String
  tocate : ℕ
  puntosjugadorUnoID : ℤ
  puntosjugadorDosID : ℤ
deriving DecidableEq, Repr

/-- `new Jugada(jugadorUnoID, invitacionID)`. -/
def Jugada.nueva (jugadorUnoID invitacionID : String) : Jugada where
  jugadorUnoID := jugadorUnoID
  jugadorDosID := ""
  ganadorID := ""
  abandonoID := ""
  invitacionID := invitacionID
  tocate := 0
  puntosjugadorUnoID := 0
  puntosjugadorDosID := 0

structure User where
  name : String
  foto : String
  gameDone : ℤ
  points : ℤ
  /-- `null` until one of the screens sets it. -/
  Online : Option String
deriving DecidableEq, Repr

/-- `new User(name, points, gameDone, foto)`. -/
def User.nuevo (name : String) (points gameDone : ℤ) (foto : String) : User where
  name := name
  foto := foto
  gameDone := gameDone
  points := points
  Online := none

/-- The two fields that say whose record it is. -/
def User.identidad (u : User) : String × String := (u.name, u.foto)

/-- The two fields that games change. -/
def User.cuenta (u : User) : ℤ × ℤ := (u.points, u.gameDone)

/-- A `User` object together with the id of the document it was read from. -/
structure Leido where
  de : String
  user : User
deriving DecidableEq, Repr

/-- What a finished match makes of a player's record: the score is added, the
match is counted, and `online` is set. -/
def Leido.acredita (l : Leido) (puntos : ℤ) : Leido :=
  { l with
    user :=
      { l.user with
        points := l.user.points + puntos
        gameDone := l.user.gameDone + 1
        Online := some "on" } }

@[simp] theorem Leido.acredita_de (l : Leido) (puntos : ℤ) :
    (l.acredita puntos).de = l.de := rfl

@[simp] theorem Leido.acredita_points (l : Leido) (puntos : ℤ) :
    (l.acredita puntos).user.points = l.user.points + puntos := rfl

@[simp] theorem Leido.acredita_gameDone (l : Leido) (puntos : ℤ) :
    (l.acredita puntos).user.gameDone = l.user.gameDone + 1 := rfl

@[simp] theorem Leido.acredita_identidad (l : Leido) (puntos : ℤ) :
    (l.acredita puntos).user.identidad = l.user.identidad := rfl

/-! ## Draws -/

/-- The number `k`, drawn by `new Random().nextInt(n + 1)`. -/
def sale {n : ℕ} (k : ℕ) : Fin (n + 1) :=
  Fin.ofNat (n + 1) k

/-! ## Texts -/

/-- `length()`: a character outside the basic plane counts twice. -/
def longitud : List Char → ℕ
  | [] => 0
  | c :: s => longitud s + if c.val < 0x10000 then 1 else 2

theorem length_le_longitud (s : List Char) : s.length ≤ longitud s := by
  induction s with
  | nil => exact Nat.le_refl 0
  | cons c s ih =>
      have hc : 1 ≤ if c.val < 0x10000 then 1 else 2 := by split <;> decide
      exact Nat.add_le_add ih hc

/-- `substring(0,n)`: of a pair that is cut the half that is left shows as the
replacement character. -/
def subcadena : ℕ → List Char → List Char
  | 0, _ => []
  | _, [] => []
  | 1, c :: _ => [if c.val < 0x10000 then c else '\uFFFD']
  | n + 2, c :: s =>
      c :: if c.val < 0x10000 then subcadena (n + 1) s else subcadena n s

/-- A name as the screens of the two games show it. -/
def recorta (nombre : String) : String :=
  if longitud nombre.toList > 10 then
    String.ofList (subcadena 10 nombre.toList)
  else nombre

end Tocate
