import Tocate.MultPlayer.Facts
import Tocate.Lib.Lasting
import Mathlib.Data.Fintype.Basic

/-!
# One match and its two clients

A match has a creator, `jugadorUno`, and a second player, `jugadorDos`.  Each
of them runs the match screen on the same game.  Before and beside the match
the device of a player may also join the game (`FindGameActivity`) or refuse
the invitation (`TransisionActivity`); those writes go through the same queue.

The last section shows that whatever happens the two seats stay with the two
players, on the server, in every write in flight and in every local copy.
-/

namespace Tocate

open Cloud

inductive Lado where
  | uno
  | dos
deriving DecidableEq, Repr

instance : Fintype Lado := ⟨{.uno, .dos}, fun l => by cases l <;> decide⟩

def Lado.otro : Lado → Lado
  | .uno => .dos
  | .dos => .uno

@[simp] theorem Lado.otro_otro (l : Lado) : l.otro.otro = l := by
  cases l <;> rfl

theorem Lado.otro_ne (l : Lado) : l.otro ≠ l := by
  cases l <;> simp [Lado.otro]

theorem Lado.eq_or_eq_otro (l k : Lado) : k = l ∨ k = l.otro := by
  cases l <;> cases k <;> simp [Lado.otro]

/-- A game between two different signed-in users. -/
structure Partida where
  jugadaId : String
  uno : String
  dos : String
  uno_ne_dos : uno ≠ dos
  uno_ne_vacio : uno ≠ ""
  dos_ne_vacio : dos ≠ ""

namespace Partida

def uid (p : Partida) : Lado → String
  | .uno => p.uno
  | .dos => p.dos

theorem uid_ne_vacio (p : Partida) (l : Lado) : p.uid l ≠ "" := by
  cases l
  · exact p.uno_ne_vacio
  · exact p.dos_ne_vacio

theorem uid_otro_ne (p : Partida) (l : Lado) : p.uid l.otro ≠ p.uid l := by
  cases l
  · exact p.uno_ne_dos.symm
  · exact p.uno_ne_dos

theorem uid_injective (p : Partida) : Function.Injective p.uid := by
  intro l k h
  rcases l.eq_or_eq_otro k with rfl | rfl
  · rfl
  · exact absurd h.symm (p.uid_otro_ne l)

/-- What can happen on the device of a player. -/
inductive Suceso where
  | mult (e : MultPlayer.Suceso)
  /-- `FindGameActivity.buscarJugadaRef`. -/
  | buscarJugadaRef
  /-- `FindGameActivity.buscarJugadaLibre` finds this game. -/
  | buscarJugadaLibre
  /-- `TransisionActivity.cancelarJugada`. -/
  | cancelarJugada
deriving DecidableEq, Repr

/-- The match screen is started once the second seat is taken, which is what
`esperarJugador` waits for and what a join brings about. -/
def react (db vista : BaseDatos) (m : MultPlayer) :
    Suceso → Option (MultPlayer × List Escritura)
  | .mult .onStart =>
      match db.jugadas m.jugadaId with
      | none => none
      | some j =>
          if j.jugadorDosID = "" then none
          else MultPlayer.react vista m .onStart
  | .mult e => MultPlayer.react vista m e
  | .buscarJugadaRef =>
      match db.jugadas m.jugadaId with
      | none => none
      | some j =>
          if j.jugadorUnoID = m.uid then none
          else some (m, [.unirse m.jugadaId m.uid])
  | .buscarJugadaLibre =>
      match db.jugadas m.jugadaId with
      | none => none
      | some j =>
          if j.jugadorDosID = "" ∧ j.invitacionID = "" ∧
              j.jugadorUnoID ≠ m.uid then
            some (m, [.reclamar m.jugadaId { j with jugadorDosID := m.uid }])
          else none
  | .cancelarJugada =>
      match db.jugadas m.jugadaId with
      | none => none
      | some j =>
          if j.invitacionID = m.uid ∧ j.jugadorUnoID ≠ m.uid then
            some (m, [.rechazar m.jugadaId m.uid])
          else none

def programa : Program BaseDatos Escritura MultPlayer Suceso where
  apply := BaseDatos.aplicar
  react := react
  snapshot := MultPlayer.snapshot
  ack := fun _ _ m => (m, [])
  listens := MultPlayer.escucha

abbrev Estado := State Lado BaseDatos Escritura MultPlayer

abbrev Paso := Action Lado Suceso

/-- An event of the match screen. -/
def Suceso.esMult : Suceso → Bool
  | .mult _ => true
  | _ => false

/-- The tap of a step: whose, and on which image. -/
def toca? : Paso → Option (Lado × Imagen)
  | .event l (.mult (.clic imagen _)) => some (l, imagen)
  | _ => none

/-- The player whose screen calls `funcionGameover` in a step. -/
def acaba? : Paso → Option Lado
  | .event l (.mult e) => if e.esGameover then some l else none
  | _ => none

/-- The player whose countdown expires in a step. -/
def vence? : Paso → Option Lado
  | .event l (.mult (.onFinish _)) => some l
  | _ => none

theorem toca?_eq_some {a : Paso} {l : Lado} {imagen : Imagen}
    (h : toca? a = some (l, imagen)) :
    ∃ aleatorio, a = .event l (.mult (.clic imagen aleatorio)) := by
  unfold toca? at h
  split at h
  · cases h
    exact ⟨_, rfl⟩
  · cases h

theorem vence?_eq_some {a : Paso} {l : Lado} (h : vence? a = some l) :
    ∃ t, a = .event l (.mult (.onFinish t)) := by
  unfold vence? at h
  split at h
  · cases h
    exact ⟨_, rfl⟩
  · cases h

theorem acaba?_of_esGameover {l : Lado} {e : MultPlayer.Suceso}
    (he : e.esGameover = true) : acaba? (.event l (.mult e)) = some l :=
  if_pos he

/-- Both devices before the match, over the database `db`. -/
def inicial (p : Partida) (db : BaseDatos) : Estado where
  server := db
  outbox := fun _ => []
  acks := fun _ => []
  inbox := fun _ => []
  client := fun l => MultPlayer.creada (p.uid l) p.jugadaId
  issued := []

/-! ## The seats -/

/-- The seats of the match as the server may show them. -/
def EnMesa (p : Partida) (j : Jugada) : Prop :=
  j.jugadorUnoID = p.uno ∧ (j.jugadorDosID = "" ∨ j.jugadorDosID = p.dos)

/-- Both players are seated. -/
def Sentados (p : Partida) (j : Jugada) : Prop :=
  j.jugadorUnoID = p.uno ∧ j.jugadorDosID = p.dos

/-- The database shows both players seated. -/
def Empezada (p : Partida) (db : BaseDatos) : Prop :=
  ∃ j, db.jugadas p.jugadaId = some j ∧ p.Sentados j

/-- The game exists, with no stranger in it. -/
def Abierta (p : Partida) (db : BaseDatos) : Prop :=
  ∃ j, db.jugadas p.jugadaId = some j ∧ p.EnMesa j

theorem Sentados.enMesa {p : Partida} {j : Jugada} (h : p.Sentados j) :
    p.EnMesa j := ⟨h.1, Or.inr h.2⟩

theorem Empezada.abierta {p : Partida} {db : BaseDatos} (h : p.Empezada db) :
    p.Abierta db := by
  obtain ⟨j, hj, hsent⟩ := h
  exact ⟨j, hj, hsent.enMesa⟩

/-- The writes the two devices issue: seats as they are, or taken by the
second player. -/
def Permitida (p : Partida) (l : Lado) : Escritura → Prop
  | .setJugada id j => id = p.jugadaId ∧ p.Sentados j
  | .reclamar id j => id = p.jugadaId ∧ p.Sentados j
  | .unirse id uid => id = p.jugadaId ∧ uid = p.dos
  | .rechazar id uid => id = p.jugadaId ∧ uid = p.dos
  | .setUser uid _ => uid = p.uid l
  | .addJugada _ _ | .deleteJugada _ => False

/-- What holds of the match screen of each player. -/
structure Jugador (p : Partida) (l : Lado) (m : MultPlayer) : Prop where
  uid : m.uid = p.uid l
  jugadaId : m.jugadaId = p.jugadaId
  jugada : ∀ j, m.jugada = some j → p.Sentados j
  pedidosUno : ∀ id ∈ m.pedidosUno, id = p.uno
  pedidosDos : ∀ id ∈ m.pedidosDos, id = p.dos
  userjUno : ∀ u, m.userjUno = some u → u.de = p.uno
  userjDos : ∀ u, m.userjDos = some u → u.de = p.dos

/-- The seats, part by part.  What is known is whether the second seat is
taken; a screen listens only after that. -/
def asientos (p : Partida) : Parts Lado BaseDatos Escritura MultPlayer Prop where
  know := fun s => p.Empezada s.server
  le := fun k k' => k → k'
  doc := fun _ db => p.Abierta db
  write := fun _ l w => p.Permitida l w
  ack := fun _ _ _ => True
  shot := fun _ _ db => p.Empezada db
  client := fun k l m => p.Jugador l m ∧ (m.listenerJugada = true → k)

/-- What a write makes of the match it is about. -/
def cambio : Escritura → Option Jugada → Option Jugada
  | .addJugada _ j, _ | .setJugada _ j, _ | .reclamar _ j, _ => some j
  | .unirse _ uid, o => o.map fun j => { j with jugadorDosID := uid }
  | .rechazar _ uid, o =>
      o.map fun j => { j with jugadorDosID := uid, abandonoID := uid }
  | .deleteJugada _, _ => none
  | .setUser _ _, o => o

/-- The writes of the two devices are about their match. -/
theorem Permitida.aplicar {p : Partida} {l : Lado} {w : Escritura}
    (hw : p.Permitida l w) (db : BaseDatos) :
    (db.aplicar w).1.jugadas p.jugadaId = cambio w (db.jugadas p.jugadaId) := by
  have hupdate : ∀ f, (db.update p.jugadaId f).1.jugadas p.jugadaId =
      (db.jugadas p.jugadaId).map f := by
    intro f
    cases hdoc : db.jugadas p.jugadaId with
    | none => simp [BaseDatos.update_none hdoc, hdoc]
    | some j => simp [BaseDatos.update_some hdoc]
  cases w with
  | addJugada id j => exact hw.elim
  | setJugada id j =>
      rw [hw.1]
      exact db.conJugada_self _ _
  | reclamar id j =>
      rw [hw.1]
      exact db.conJugada_self _ _
  | unirse id uid =>
      rw [hw.1]
      exact hupdate _
  | rechazar id uid =>
      rw [hw.1]
      exact hupdate _
  | deleteJugada id => exact hw.elim
  | setUser uid u => rfl

/-- A write of the two devices leaves the seats in order, and a taken seat
taken. -/
theorem aplicar_asientos {p : Partida} {l : Lado} {db : BaseDatos}
    {w : Escritura} (hw : p.Permitida l w) :
    (p.Abierta db → p.Abierta (db.aplicar w).1) ∧
      (p.Empezada db → p.Empezada (db.aplicar w).1) := by
  have hambas : (p.Abierta db → p.Empezada (db.aplicar w).1) →
      (p.Abierta db → p.Abierta (db.aplicar w).1) ∧
        (p.Empezada db → p.Empezada (db.aplicar w).1) :=
    fun h => ⟨fun hdb => (h hdb).abierta, fun hdb => h hdb.abierta⟩
  have happ := hw.aplicar db
  cases w with
  | addJugada id j => exact hw.elim
  | setJugada id j => exact hambas fun _ => ⟨j, happ, hw.2⟩
  | reclamar id j => exact hambas fun _ => ⟨j, happ, hw.2⟩
  | unirse id uid =>
      apply hambas
      rintro ⟨j, hj, huno, -⟩
      rw [hj] at happ
      exact ⟨_, happ, huno, hw.2⟩
  | rechazar id uid =>
      apply hambas
      rintro ⟨j, hj, huno, -⟩
      rw [hj] at happ
      exact ⟨_, happ, huno, hw.2⟩
  | deleteJugada id => exact hw.elim
  | setUser uid u => exact ⟨fun h => h, fun h => h⟩

/-- What a device can do: something on the match screen, or one write that
takes or refuses the second seat. -/
theorem react_cases {db vista : BaseDatos} {m m' : MultPlayer} {e : Suceso}
    {ws : List Escritura} (h : react db vista m e = some (m', ws)) :
    (∃ e', e = .mult e' ∧ MultPlayer.react vista m e' = some (m', ws) ∧
      (e' = .onStart →
        ∃ j, db.jugadas m.jugadaId = some j ∧ j.jugadorDosID ≠ "")) ∨
    (m' = m ∧ ∃ j w, db.jugadas m.jugadaId = some j ∧
      j.jugadorUnoID ≠ m.uid ∧ ws = [w] ∧
      ((e = .buscarJugadaRef ∧ w = .unirse m.jugadaId m.uid) ∨
        (e = .buscarJugadaLibre ∧ j.jugadorDosID = "" ∧
          w = .reclamar m.jugadaId { j with jugadorDosID := m.uid }) ∨
        (e = .cancelarJugada ∧ w = .rechazar m.jugadaId m.uid))) := by
  cases e with
  | mult e' =>
      left
      by_cases hstart : e' = .onStart
      · subst hstart
        simp only [react] at h
        split at h
        · exact absurd h (by simp)
        next j hj =>
          obtain ⟨hdos, hreact⟩ := Option.ite_none_left_eq_some.mp h
          exact ⟨_, rfl, hreact, fun _ => ⟨j, hj, hdos⟩⟩
      · refine ⟨e', rfl, ?_, fun hs => absurd hs hstart⟩
        cases e' with
        | onStart => exact absurd rfl hstart
        | _ => exact h
  | buscarJugadaRef =>
      right
      simp only [react] at h
      split at h
      · exact absurd h (by simp)
      next j hj =>
        obtain ⟨huno, ⟨⟩⟩ := Option.ite_none_left_eq_some.mp h
        exact ⟨rfl, j, _, hj, huno, rfl, Or.inl ⟨rfl, rfl⟩⟩
  | buscarJugadaLibre =>
      right
      simp only [react] at h
      split at h
      · exact absurd h (by simp)
      next j hj =>
        obtain ⟨hlibre, ⟨⟩⟩ := Option.ite_none_right_eq_some.mp h
        exact ⟨rfl, j, _, hj, hlibre.2.2, rfl,
          Or.inr (Or.inl ⟨rfl, hlibre.1, rfl⟩)⟩
  | cancelarJugada =>
      right
      simp only [react] at h
      split at h
      · exact absurd h (by simp)
      next j hj =>
        obtain ⟨hinv, ⟨⟩⟩ := Option.ite_none_right_eq_some.mp h
        exact ⟨rfl, j, _, hj, hinv.2, rfl, Or.inr (Or.inr ⟨rfl, rfl⟩)⟩

/-- What an event on a device does: it counts a tap, ends the match, takes or
refuses the seat, or leaves all that alone. -/
theorem react_efecto {db vista : BaseDatos} {m m' : MultPlayer} {e : Suceso}
    {ws : List Escritura} (h : react db vista m e = some (m', ws)) :
    (∃ imagen aleatorio j, e = .mult (.clic imagen aleatorio) ∧
      MultPlayer.Toque m imagen aleatorio j m' ws) ∨
    (∃ e' j, e = .mult e' ∧ e'.esGameover = true ∧
      (m.alLlamar e').jugada = some j ∧
      MultPlayer.Termina (m.alLlamar e') j m' ws) ∨
    (∃ e', e = .mult e' ∧ (e'.esCallado = true ∨ m.jugada = none) ∧
      MultPlayer.Quieta m m' ws) ∨
    (m' = m ∧ ∃ j w, db.jugadas m.jugadaId = some j ∧
      j.jugadorUnoID ≠ m.uid ∧ ws = [w] ∧
      ((e = .buscarJugadaRef ∧ w = .unirse m.jugadaId m.uid) ∨
        (e = .buscarJugadaLibre ∧ j.jugadorDosID = "" ∧
          w = .reclamar m.jugadaId { j with jugadorDosID := m.uid }) ∨
        (e = .cancelarJugada ∧ w = .rechazar m.jugadaId m.uid))) := by
  rcases react_cases h with ⟨e', rfl, hreact, -⟩ | hjoin
  · rcases MultPlayer.react_efecto hreact with ⟨imagen, aleatorio, j, rfl, ht⟩ |
      ⟨hgame, j, hj, ht⟩ | ⟨hcall, hq⟩
    · exact Or.inl ⟨imagen, aleatorio, j, rfl, ht⟩
    · exact Or.inr (Or.inl ⟨e', j, rfl, hgame, hj, ht⟩)
    · exact Or.inr (Or.inr (Or.inl ⟨e', rfl, hcall, hq⟩))
  · exact Or.inr (Or.inr (Or.inr hjoin))

theorem Sentados.tocada {p : Partida} {j : Jugada} (h : p.Sentados j)
    (cont : ℤ × ℤ) (aleatorio : Fin 3) :
    p.Sentados (MultPlayer.tocada j cont aleatorio) := h

theorem Sentados.coronada {p : Partida} {j : Jugada} (h : p.Sentados j) :
    p.Sentados (MultPlayer.coronada j) := h

theorem Jugador.alLlamar {p : Partida} {l : Lado} {m : MultPlayer}
    (h : p.Jugador l m) {e : MultPlayer.Suceso} {j : Jugada}
    (hj : (m.alLlamar e).jugada = some j) : p.Sentados j := by
  obtain ⟨k, hk, rfl | ⟨_, rfl⟩⟩ := m.alLlamar_jugada e hj
  · exact h.jugada j hk
  · exact h.jugada k hk

/-- The record that a game-over call credits is the player's own. -/
theorem Jugador.propio {p : Partida} {l : Lado} {m : MultPlayer}
    (h : p.Jugador l m) {j : Jugada} (hj : p.Sentados j) :
    m.propio j =
      match l with
      | .uno => m.userjUno
      | .dos => m.userjDos := by
  unfold MultPlayer.propio
  rw [hj.1, h.uid]
  cases l with
  | uno => simp [Partida.uid]
  | dos => simp [Partida.uid, p.uno_ne_dos]

theorem Jugador.propio_de {p : Partida} {l : Lado} {m : MultPlayer}
    (h : p.Jugador l m) {j : Jugada} (hj : p.Sentados j) {u : Leido}
    (hu : m.propio j = some u) : u.de = p.uid l := by
  rw [h.propio hj] at hu
  cases l with
  | uno => exact h.userjUno u hu
  | dos => exact h.userjDos u hu

theorem Jugador.base {p : Partida} {l : Lado} {m m' : MultPlayer}
    {e : MultPlayer.Suceso} (h : p.Jugador l m)
    (hbase : MultPlayer.Base (m.alLlamar e) m')
    (hjug : ∀ j, m'.jugada = some j → p.Sentados j)
    (huno : ∀ u, m'.userjUno = some u → u.de = p.uno)
    (hdos : ∀ u, m'.userjDos = some u → u.de = p.dos) : p.Jugador l m' := by
  refine ⟨?_, ?_, hjug, ?_, ?_, huno, hdos⟩
  · rw [hbase.afin.uid, MultPlayer.alLlamar_uid, h.uid]
  · rw [hbase.afin.jugadaId, MultPlayer.alLlamar_jugadaId, h.jugadaId]
  · rw [hbase.pedidosUno]
    exact fun id hid =>
      h.pedidosUno id (m.alLlamar_pedidos_subset e .uno hid)
  · rw [hbase.pedidosDos]
    exact fun id hid =>
      h.pedidosDos id (m.alLlamar_pedidos_subset e .dos hid)

/-- A call of `funcionGameover` leaves the screen with its player. -/
theorem Jugador.termina {p : Partida} {l : Lado} {m m' : MultPlayer}
    {e : MultPlayer.Suceso} {j : Jugada} {ws : List Escritura}
    (h : p.Jugador l m) (hj : (m.alLlamar e).jugada = some j)
    (ht : MultPlayer.Termina (m.alLlamar e) j m' ws) : p.Jugador l m' := by
  have hsent := h.alLlamar hj
  refine h.base ht.base ?_ ?_ ?_
  · intro k hk
    rw [ht.jugada] at hk
    cases hk
    exact hsent.coronada
  · intro v hv
    rcases ht.credito with ⟨-, -, -, huno, -⟩ | ⟨u, hu, -, huno, -⟩
    · rw [huno, MultPlayer.alLlamar_userjUno] at hv
      exact h.userjUno v hv
    · rw [huno] at hv
      rcases MultPlayer.conPropio_registro_eq_some (p := .uno) _ _ _ hv with
        hv | ⟨hyo, rfl⟩
      · exact h.userjUno v ((m.alLlamar_userjUno e).symm.trans hv)
      · rw [MultPlayer.alLlamar_propio] at hu
        rw [Leido.acredita_de, h.propio_de hsent hu, ← h.uid,
          ← m.alLlamar_uid e, ← MultPlayer.suPuesto_eq_uno.mp hyo, hsent.1]
  · intro v hv
    rcases ht.credito with ⟨-, -, -, -, hdos⟩ | ⟨u, hu, -, -, hdos⟩
    · rw [hdos, MultPlayer.alLlamar_userjDos] at hv
      exact h.userjDos v hv
    · rw [hdos] at hv
      rcases MultPlayer.conPropio_registro_eq_some (p := .dos) _ _ _ hv with
        hv | ⟨hyo, rfl⟩
      · exact h.userjDos v ((m.alLlamar_userjDos e).symm.trans hv)
      · rw [MultPlayer.alLlamar_propio] at hu
        rw [Leido.acredita_de, h.propio_de hsent hu]
        cases l with
        | uno =>
            have huno : (m.alLlamar e).suPuesto j = .uno := by
              rw [MultPlayer.suPuesto_eq_uno, MultPlayer.alLlamar_uid, h.uid]
              exact hsent.1
            rw [hyo] at huno
            cases huno
        | dos => rfl

section Handlers

variable {p : Partida} {l : Lado} {db vista : BaseDatos} {m m' : MultPlayer}
  {ws : List Escritura}

/-- A tap leaves the screen with its player and writes the match with its
seats. -/
theorem Jugador.toque {imagen : Imagen} {aleatorio : Fin 3} {j : Jugada}
    (h : p.Jugador l m) (ht : MultPlayer.Toque m imagen aleatorio j m' ws) :
    p.Jugador l m' ∧ ∀ w ∈ ws, p.Permitida l w := by
  have hsent := (h.jugada j ht.antes).tocada (m.cuenta imagen j) aleatorio
  refine ⟨⟨?_, ?_, ?_, ?_, ?_, ?_, ?_⟩, ?_⟩
  · rw [ht.uid, h.uid]
  · rw [ht.jugadaId, h.jugadaId]
  · intro k hk
    rw [ht.jugada] at hk
    rw [← Option.some.inj hk]
    exact hsent
  · rw [ht.pedidosUno]
    exact h.pedidosUno
  · rw [ht.pedidosDos]
    exact h.pedidosDos
  · rw [ht.userjUno]
    exact h.userjUno
  · rw [ht.userjDos]
    exact h.userjDos
  · rw [ht.writes, List.forall_mem_singleton]
    exact ⟨h.jugadaId, hsent⟩

/-- A call without a match leaves the screen with its player. -/
theorem Jugador.cae {e : MultPlayer.Suceso} (h : p.Jugador l m)
    (hc : MultPlayer.Cae (m.alLlamar e) m' ws) : p.Jugador l m' := by
  refine h.base hc.base ?_ ?_ ?_
  · rw [hc.jugada]
    exact nofun
  · rw [hc.userjUno, MultPlayer.alLlamar_userjUno]
    exact h.userjUno
  · rw [hc.userjDos, MultPlayer.alLlamar_userjDos]
    exact h.userjDos

/-- A call of `funcionGameover` writes the match with its seats and the user's
own record. -/
theorem Jugador.permitida_termina {e : MultPlayer.Suceso} {j : Jugada}
    (h : p.Jugador l m) (hj : (m.alLlamar e).jugada = some j)
    (ht : MultPlayer.Termina (m.alLlamar e) j m' ws) :
    ∀ w ∈ ws, p.Permitida l w := by
  have hset : p.Permitida l
      (.setJugada m.jugadaId (MultPlayer.coronada j)) :=
    ⟨h.jugadaId, (h.alLlamar hj).coronada⟩
  exact ht.guarda.forall_mem hset fun _ => h.uid

/-- A reply brings the record that was asked for. -/
theorem de_of_leida {pedidos : List String} {o : Option Leido} {x : String}
    (hpedidos : ∀ id ∈ pedidos, id = x)
    (h : MultPlayer.Leida vista pedidos o) :
    ∀ u, o = some u → u.de = x := by
  obtain ⟨id, hid, rfl⟩ := h
  intro u hu
  obtain ⟨v, -, rfl⟩ := Option.map_eq_some_iff.mp hu
  exact hpedidos id hid

/-- A silent event leaves the screen with its player. -/
theorem Jugador.calla {e : MultPlayer.Suceso} (h : p.Jugador l m)
    (hc : MultPlayer.Calla vista m e m' ws) : p.Jugador l m' := by
  refine ⟨?_, ?_, ?_, ?_, ?_, ?_, ?_⟩
  · rw [hc.uid, h.uid]
  · rw [hc.jugadaId, h.jugadaId]
  · rw [hc.jugada]
    exact h.jugada
  · exact fun id hid => h.pedidosUno id (hc.pedidos .uno hid)
  · exact fun id hid => h.pedidosDos id (hc.pedidos .dos hid)
  · rcases hc.registro .uno with hu | hleida
    · exact fun u hm' => h.userjUno u (hu.symm.trans hm')
    · exact de_of_leida h.pedidosUno hleida
  · rcases hc.registro .dos with hu | hleida
    · exact fun u hm' => h.userjDos u (hu.symm.trans hm')
    · exact de_of_leida h.pedidosDos hleida

/-- A screen that is started has both players seated. -/
theorem empezada_of_calla {e : MultPlayer.Suceso} (h : p.Jugador l m)
    (hlis : m.listenerJugada = true → p.Empezada db) (hdb : p.Abierta db)
    (hstart : e = .onStart →
      ∃ j, db.jugadas m.jugadaId = some j ∧ j.jugadorDosID ≠ "")
    (hc : MultPlayer.Calla vista m e m' ws) :
    m'.listenerJugada = true → p.Empezada db := by
  rcases hc.ciclo with ⟨hs, -⟩ | ⟨-, hl⟩
  · intro _
    obtain ⟨j, hj, hdos⟩ := hstart hs
    obtain ⟨k, hk, hmesa⟩ := hdb
    rw [h.jugadaId, hk] at hj
    obtain rfl := Option.some.inj hj
    exact ⟨k, hk, hmesa.1, hmesa.2.resolve_left hdos⟩
  · rw [hl]
    exact hlis

/-- What client `l` turns into is still the screen of its player, and what it
writes is allowed. -/
theorem react_asientos {e : Suceso} (hm : p.Jugador l m)
    (hlis : m.listenerJugada = true → p.Empezada db) (hdb : p.Abierta db)
    (h : react db vista m e = some (m', ws)) :
    p.Jugador l m' ∧ (m'.listenerJugada = true → p.Empezada db) ∧
      ∀ w ∈ ws, p.Permitida l w := by
  rcases react_cases h with ⟨e', rfl, hreact, hstart⟩ |
    ⟨rfl, j, w, hj, huno, rfl, hw⟩
  · rcases e'.clases with ⟨imagen, aleatorio, rfl⟩ | hgame | hcallado
    · obtain ⟨-, -, ⟨hj, rfl, rfl⟩ | ⟨j, ht⟩⟩ := MultPlayer.react_clic hreact
      · exact ⟨⟨hm.uid, hm.jugadaId, hm.jugada, hm.pedidosUno, hm.pedidosDos,
          hm.userjUno, hm.userjDos⟩, hlis, by simp⟩
      · obtain ⟨hm', hws⟩ := hm.toque ht
        refine ⟨hm', ?_, hws⟩
        rw [ht.listenerJugada]
        exact hlis
    · have hsigue : MultPlayer.Base (m.alLlamar e') m' →
          m'.listenerJugada = true → p.Empezada db := by
        intro hbase hl
        rw [hbase.afin.listenerJugada] at hl
        exact hlis (m.alLlamar_listenerJugada e' hl)
      rcases MultPlayer.react_gameover hgame hreact with hc | ⟨j, hj, ht⟩
      · refine ⟨hm.cae hc, hsigue hc.base, ?_⟩
        rw [hc.writes]
        exact List.forall_mem_nil _
      · exact ⟨hm.termina hj ht, hsigue ht.base, hm.permitida_termina hj ht⟩
    · have hc := MultPlayer.react_callado hcallado hreact
      refine ⟨hm.calla hc, empezada_of_calla hm hlis hdb hstart hc, ?_⟩
      rw [hc.writes]
      exact List.forall_mem_nil _
  · obtain ⟨k, hk, hmesa⟩ := hdb
    rw [hm.jugadaId, hk] at hj
    obtain rfl := Option.some.inj hj
    have hdos : m'.uid = p.dos := by
      rw [hm.uid]
      cases l with
      | uno => exact absurd (hmesa.1.trans hm.uid.symm) huno
      | dos => rfl
    refine ⟨hm, hlis, ?_⟩
    rw [List.forall_mem_singleton]
    rcases hw with ⟨-, rfl⟩ | ⟨-, -, rfl⟩ | ⟨-, rfl⟩
    · exact ⟨hm.jugadaId, hdos⟩
    · exact ⟨hm.jugadaId, hmesa.1, hdos⟩
    · exact ⟨hm.jugadaId, hdos⟩

end Handlers

/-- A snapshot leaves the screen with its player. -/
theorem Jugador.recibe {p : Partida} {l : Lado} {m m' : MultPlayer}
    {j : Jugada} (h : p.Jugador l m) (hj : p.Sentados j)
    (hrec : MultPlayer.Recibe m j m') : p.Jugador l m' := by
  refine ⟨?_, ?_, ?_, ?_, ?_, ?_, ?_⟩
  · rw [hrec.afin.uid, h.uid]
  · rw [hrec.afin.jugadaId, h.jugadaId]
  · intro k hk
    rw [hrec.jugada] at hk
    cases hk
    exact hj
  · rcases hrec.pedidosUno with hp | ⟨-, hp⟩
    · rw [hp]
      exact h.pedidosUno
    · rw [hp]
      intro id hid
      rcases List.mem_append.mp hid with hold | hnew
      · exact h.pedidosUno id hold
      · rw [List.mem_singleton.mp hnew, hj.1]
  · rcases hrec.pedidosDos with hp | ⟨-, hp⟩
    · rw [hp]
      exact h.pedidosDos
    · rw [hp]
      intro id hid
      rcases List.mem_append.mp hid with hold | hnew
      · exact h.pedidosDos id hold
      · rw [List.mem_singleton.mp hnew, hj.2]
  · rw [hrec.userjUno]
    exact h.userjUno
  · rw [hrec.userjDos]
    exact h.userjDos

/-- The two devices keep the seats. -/
theorem asientos_kept (p : Partida) :
    (asientos p).Kept programa (fun _ _ => True) where
  grows := by
    intro s a s' hs _ hstep
    show p.Empezada s.server → p.Empezada s'.server
    rcases Program.step_flight hstep with ⟨i, w, ws, -, hbox, rfl⟩ |
      ⟨hserver, -⟩
    · exact (aplicar_asientos (hs.outbox i w (mem_of_eq_cons hbox))).2
    · rw [hserver]
      exact fun h => h
  doc_mono := fun _ h => h
  write_mono := fun _ h => h
  ack_mono := fun _ h => h
  shot_mono := fun _ h => h
  client_mono := fun hle h => ⟨h.1, fun hl => hle (h.2 hl)⟩
  receive := by
    intro s i w ws hs _ hbox
    have hw := hs.outbox i w (mem_of_eq_cons hbox)
    refine ⟨(aplicar_asientos hw).1 hs.server, trivial, ?_⟩
    intro j hlis
    simp only [programa, MultPlayer.escucha, Bool.and_eq_true] at hlis
    exact (aplicar_asientos hw).2 ((hs.clients j).2 hlis.1)
  react := by
    rintro s i e ⟨m', ws⟩ hs _ hreact
    obtain ⟨hjug, hlis, hws⟩ := react_asientos (hs.clients i).1
      (hs.clients i).2 hs.server hreact
    refine ⟨⟨hjug, hlis⟩, hws, ?_⟩
    intro hl
    simp only [programa, MultPlayer.escucha, Bool.and_eq_true] at hl
    exact hlis hl.1
  confirm := by
    intro s i w b rest s' hs _ _ hstep
    obtain ⟨_, _, _, -, rfl⟩ := Program.step_confirm hstep
    refine ⟨hs.clients i, List.forall_mem_nil _, ?_⟩
    intro hl
    simp only [programa, MultPlayer.escucha, Bool.and_eq_true] at hl
    exact (hs.clients i).2 hl.1
  deliver := by
    intro s i d rest s' hs _ hbox hstep
    obtain ⟨_, _, -, rfl⟩ := Program.step_deliver hstep
    have hd := hs.inbox i d (mem_of_eq_cons hbox)
    obtain ⟨hjug, hlis⟩ := hs.clients i
    have hmov : ∀ m', p.Jugador i m' →
        m'.listenerJugada = (s.client i).listenerJugada →
        (asientos p).Move programa (p.Empezada s.server) s.server i
          (m', []) := by
      intro m' hm' hl
      refine ⟨⟨hm', fun h => hlis (hl ▸ h)⟩,
        List.forall_mem_nil _, ?_⟩
      intro h
      simp only [programa, MultPlayer.escucha, Bool.and_eq_true] at h
      exact hlis (hl ▸ h.1)
    rcases MultPlayer.snapshot_cases (s.outbox i) d (s.client i) with hsame |
      ⟨-, -, j, m', hj, hsnap, hrec⟩
    · simp only [programa, hsame]
      exact hmov _ hjug rfl
    · obtain ⟨k, hk, hsent⟩ := hd
      rw [hjug.jugadaId, hk] at hj
      cases hj
      simp only [programa, hsnap]
      exact hmov m' (hjug.recibe hsent hrec) hrec.afin.listenerJugada

theorem asientos_inicial {p : Partida} {db : BaseDatos} (h : p.Abierta db) :
    (asientos p).Holds (p.inicial db) := by
  refine ⟨h, ?_, ?_, ?_, ?_⟩
  · exact fun _ w hw => absurd hw List.not_mem_nil
  · exact fun _ w hw => absurd hw List.not_mem_nil
  · exact fun _ w hw => absurd hw List.not_mem_nil
  · intro l
    exact ⟨⟨rfl, rfl, nofun, nofun, nofun, nofun, nofun⟩, nofun⟩

theorem asientos_step {p : Partida} {s s' : Estado} {a : Paso}
    (h : (asientos p).Holds s) (hstep : programa.step s a = some s') :
    (asientos p).Holds s' :=
  p.asientos_kept.step h trivial hstep

/-- What a device issues when something happens on it. -/
theorem issues_event {s : Estado} {l : Lado} {e : Suceso} {m' : MultPlayer}
    {ws : List Escritura}
    (h : react s.server (programa.view s l) (s.client l) e = some (m', ws)) :
    programa.issues s (.event l e) = ws := by
  have hissues : programa.issues s (.event l e) = (m', ws).2 :=
    Program.issues_event h
  exact hissues

/-- A snapshot makes the screen issue nothing. -/
theorem issues_deliver (s : Estado) (l : Lado) :
    programa.issues s (.deliver l) = [] := by
  simp only [Program.issues]
  split
  · rfl
  next d ds hbox =>
    rcases MultPlayer.snapshot_cases (s.outbox l) d (s.client l) with hsame |
      ⟨-, -, j, m', -, hsnap, -⟩
    · exact congrArg Prod.snd hsame
    · exact congrArg Prod.snd hsnap

theorem issues_confirm (s : Estado) (l : Lado) :
    programa.issues s (.confirm l) = [] := by
  simp only [Program.issues]
  split
  · rfl
  · rfl

/-- What is in flight after an arrival: the rest of the queue, and the queue of
the other player. -/
theorem forall_receive_outbox {s : Estado} {l : Lado} {w : Escritura}
    {ws : List Escritura} {Q : Escritura → Prop} :
    (∀ k, ∀ v ∈ (programa.receive s l w ws).outbox k, Q v) ↔
      ∀ v ∈ ws ++ s.outbox l.otro, Q v := by
  constructor
  · intro h v hv
    rcases List.mem_append.mp hv with hown | hother
    · refine h l v ?_
      rw [Program.receive_outbox_self]
      exact hown
    · refine h l.otro v ?_
      rw [Program.receive_outbox_ne _ _ l.otro_ne]
      exact hother
  · intro h k v hv
    rcases l.eq_or_eq_otro k with rfl | rfl
    · rw [Program.receive_outbox_self] at hv
      exact h v (List.mem_append_left _ hv)
    · rw [Program.receive_outbox_ne _ _ l.otro_ne] at hv
      exact h v (List.mem_append_right _ hv)

/-- A match of two users, `a` and `b`, as it stands when `b` has joined. -/
def deAyB : Partida where
  jugadaId := "j"
  uno := "a"
  dos := "b"
  uno_ne_dos := by decide
  uno_ne_vacio := by decide
  dos_ne_vacio := by decide

def baseAyB : BaseDatos :=
  let j := { Jugada.nueva "a" "b" with jugadorDosID := "b" }
  (((BaseDatos.vacia.conJugada "j" (some j)).conCreador "j" "a").conUser "a"
    (User.nuevo "Ana" 0 0 "")).conUser "b" (User.nuevo "Blas" 0 0 "")

/-- Player `l` opens the screen, is sent the match and gets both records. -/
def entra (l : Lado) : List Paso :=
  [.event l (.mult .onStart), .deliver l, .event l (.mult .userUno),
    .event l (.mult .userDos)]

end Partida

end Tocate
