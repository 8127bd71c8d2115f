import Tocate.FindGame.Facts
import Tocate.MultPlayer.Facts

/-!
# Searching, playing and refusing

Any number of devices share the games.  A device runs a search screen and a
match screen on some game, and its user may refuse invitations
(`TransisionActivity.cancelarJugada`); all its writes go through one queue.
Several instances of a screen on one phone are several devices with one user.
Nothing ties the match screen to `starGame`: what is proved holds whichever
match it shows.
-/

namespace Tocate.Sala

open Cloud

structure Aparato where
  busca : FindGame
  juega : MultPlayer
deriving DecidableEq, Repr

inductive Suceso where
  | busca (e : FindGame.Suceso)
  | juega (e : MultPlayer.Suceso)
  | cancelarJugada (g : String)
deriving DecidableEq, Repr

/-- The game that an invitation or a link names. -/
def nombrada : FindGame.Suceso → Option String
  | .onCreate (.pinvDirecta partidaID) => some partidaID
  | .linkReception deepLink =>
      (deepLink.bind FindGame.leeEnlace).map fun r => String.ofList r.1
  | _ => none

/-- Invitations and links name games that have been created, and a user is
never asked about a game of his own.  An exception takes the whole app
down. -/
def react (db vista : BaseDatos) (a : Aparato) (e : Suceso) :
    Option (Aparato × List Escritura) :=
  if a.busca.caida || a.juega.caida then none
  else
    match e with
    | .busca e =>
        if ∀ g ∈ nombrada e, db.creador g ≠ none then
          (FindGame.react db a.busca e).map fun r =>
            ({ a with busca := r.1 }, r.2)
        else none
    | .juega e =>
        (MultPlayer.react vista a.juega e).map fun r =>
          ({ a with juega := r.1 }, r.2)
    | .cancelarJugada g =>
        match db.creador g with
        | none => none
        | some c =>
            if c ≠ a.busca.uid then some (a, [.rechazar g a.busca.uid])
            else none

def programa : Program BaseDatos Escritura Aparato Suceso where
  apply := BaseDatos.aplicar
  react := react
  snapshot := fun pendientes db a =>
    let r := MultPlayer.snapshot pendientes db a.juega
    ({ a with juega := r.1 }, r.2)
  ack := fun w ok a => ({ a with busca := a.busca.ack w ok }, [])
  listens := fun a => a.juega.escucha

abbrev Estado (ι : Type*) := State ι BaseDatos Escritura Aparato

abbrev Paso (ι : Type*) := Action ι Suceso

variable {ι : Type*} [DecidableEq ι]

/-- What happens on a search screen, and on whose. -/
def busca? : Paso ι → Option (ι × FindGame.Suceso)
  | .event i (.busca e) => some (i, e)
  | _ => none

/-- Device `i` belongs to user `uid i`, and its match screen shows the game
`juego i`.  There is no game yet. -/
def inicial (uid juego : ι → String) (users : String → Option User) :
    Estado ι where
  server := { BaseDatos.vacia with users := users }
  outbox := fun _ => []
  acks := fun _ => []
  inbox := fun _ => []
  client := fun i =>
    { busca := FindGame.nueva (uid i)
      juega := MultPlayer.creada (uid i) (juego i) }
  issued := []

section Equations

variable {db vista : BaseDatos} {a a' : Aparato} {ws : List Escritura}

theorem react_busca {e : FindGame.Suceso}
    (h : react db vista a (.busca e) = some (a', ws)) :
    (∀ g, nombrada e = some g → db.creador g ≠ none) ∧
      FindGame.react db a.busca e = some (a'.busca, ws) ∧
      a'.juega = a.juega := by
  unfold react at h
  split at h
  · exact absurd h (by simp)
  · dsimp only at h
    split at h
    next hnombrada =>
      obtain ⟨r, hr, hmk⟩ := Option.map_eq_some_iff.mp h
      obtain ⟨rfl, rfl⟩ := Prod.mk.inj hmk
      exact ⟨hnombrada, hr, rfl⟩
    · exact absurd h (by simp)

theorem react_juega {e : MultPlayer.Suceso}
    (h : react db vista a (.juega e) = some (a', ws)) :
    MultPlayer.react vista a.juega e = some (a'.juega, ws) ∧
      a'.busca = a.busca := by
  unfold react at h
  split at h
  · exact absurd h (by simp)
  · obtain ⟨r, hr, hmk⟩ := Option.map_eq_some_iff.mp h
    obtain ⟨rfl, rfl⟩ := Prod.mk.inj hmk
    exact ⟨hr, rfl⟩

theorem react_cancelarJugada {g : String}
    (h : react db vista a (.cancelarJugada g) = some (a', ws)) :
    a' = a ∧ ws = [.rechazar g a.busca.uid] ∧
      ∃ c, db.creador g = some c ∧ c ≠ a.busca.uid := by
  unfold react at h
  split at h
  · exact absurd h (by simp)
  · dsimp only at h
    split at h
    · exact absurd h (by simp)
    next c hc =>
      split at h
      next hne =>
        obtain ⟨rfl, rfl⟩ := Prod.mk.inj (Option.some.inj h)
        exact ⟨rfl, rfl, c, hc, hne⟩
      · exact absurd h (by simp)

end Equations

end Tocate.Sala
