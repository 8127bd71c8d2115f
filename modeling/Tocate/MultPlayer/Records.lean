import Tocate.MultPlayer.Facts

/-!
# The records a match screen holds

A match screen has room for two records, one for each seat.  A reply to
`getnombresJugadores` fills one of them, and a call of `funcionGameover` credits
the one in the seat of the user and stores it.  No other event touches them.
-/

namespace Tocate.MultPlayer

/-- The user's score in the local match. -/
def puntos (m : MultPlayer) : ℤ :=
  (m.jugada.map fun j => puntosDe j m.uid).getD 0

/-- The record that an event credits, if it credits one. -/
def credito (m : MultPlayer) (e : Suceso) : Option (Puesto × Leido) :=
  if e.esGameover then
    m.jugada.bind fun j => (m.propio j).map fun l => (m.suPuesto j, l)
  else none

/-- The seat whose record an event replaces, and by which document. -/
def lectura (m : MultPlayer) : Suceso → Option (Puesto × String)
  | .userUno => m.pedidosUno.head?.map fun x => (.uno, x)
  | .userDos => m.pedidosDos.head?.map fun x => (.dos, x)
  | _ => none

theorem lectura_user (m : MultPlayer) (p : Puesto) :
    lectura m (.user p) = (m.pedidos p).head?.map fun x => (p, x) := by
  cases p <;> rfl

/-- The event credits the record `l` in seat `p`. -/
structure Credita (m : MultPlayer) (p : Puesto) (l : Leido) (m' : MultPlayer)
    (ws : List Escritura) : Prop where
  antes : m.registro p = some l
  registro : m'.registro =
    Function.update m.registro p (some (l.acredita m.puntos))
  uid : m'.uid = m.uid
  writes : ∃ j, ws =
    [.setJugada m.jugadaId j, .setUser m.uid (l.acredita m.puntos)]

/-- The event replaces the record in seat `p` by the document `users/{x}`. -/
structure Carga (vista : BaseDatos) (m : MultPlayer) (p : Puesto) (x : String)
    (m' : MultPlayer) (ws : List Escritura) : Prop where
  registro : m'.registro =
    Function.update m.registro p
      ((vista.users x).map fun u => { de := x, user := u })
  uid : m'.uid = m.uid
  writes : ws = []

/-- The event leaves the records alone, both the loaded and the stored ones. -/
structure Respeta (m m' : MultPlayer) (ws : List Escritura) : Prop where
  registro : m'.registro = m.registro
  uid : m'.uid = m.uid
  writes : ∀ x l, .setUser x l ∉ ws

section Events

variable {vista : BaseDatos} {m m' : MultPlayer} {e : Suceso}
  {ws : List Escritura}

/-- A reply to a read replaces the record of its seat. -/
theorem carga_user {p : Puesto} (h : react vista m (.user p) = some (m', ws)) :
    ∃ x, lectura m (.user p) = some (p, x) ∧ Carga vista m p x m' ws := by
  obtain ⟨x, resto, nombre, caida, hped, rfl, rfl⟩ := react_user_eq h
  refine ⟨x, ?_, alLeer_registro .., alLeer_uid .., rfl⟩
  rw [lectura_user, hped, List.head?_cons, Option.map_some]

/-- The end of the match with the local match `j`. -/
theorem registro_gameover {j : Jugada} (he : e.esGameover = true)
    (hj : (m.alLlamar e).jugada = some j)
    (ht : Termina (m.alLlamar e) j m' ws) :
    (∃ p l, credito m e = some (p, l) ∧ Credita m p l m' ws) ∨
      (credito m e = none ∧ Respeta m m' ws) := by
  have huid : m'.uid = m.uid := by
    rw [ht.base.afin.uid, alLlamar_uid]
  -- a back press changes `abandonoID` only
  obtain ⟨i, hi, hij⟩ := m.alLlamar_jugada e hj
  have hseat : j.jugadorUnoID = i.jugadorUnoID := by
    rcases hij with rfl | ⟨-, rfl⟩
    · rfl
    · rfl
  have hpuntos : puntosDe j m.uid = m.puntos := by
    simp only [puntos, hi, Option.map_some, Option.getD_some]
    rcases hij with rfl | ⟨-, rfl⟩
    · rfl
    · rfl
  have hpropio : m.propio j = m.propio i := by
    simp only [propio, hseat]
  have hpuesto : m.suPuesto j = m.suPuesto i := by
    simp only [suPuesto, hseat]
  have hcredito : credito m e =
      (m.propio j).map fun l => (m.suPuesto j, l) := by
    rw [credito, if_pos he, hi, Option.bind_some, hpropio, hpuesto]
  rw [hcredito]
  rcases ht.credito with ⟨hno, hws, -, huno, hdos⟩ | ⟨l, hl, hws, huno, hdos⟩
  · right
    rw [alLlamar_propio] at hno
    rw [alLlamar_userjUno] at huno
    rw [alLlamar_userjDos] at hdos
    refine ⟨by rw [hno]; rfl, registro_ext huno hdos, huid, fun x l hmem => ?_⟩
    rw [hws, List.mem_singleton] at hmem
    exact absurd hmem (by simp)
  · left
    rw [alLlamar_propio] at hl
    rw [alLlamar_uid, hpuntos] at hws huno hdos
    have hregistro : m'.registro =
        ((m.alLlamar e).conPropio j (l.acredita m.puntos)).registro :=
      registro_ext huno hdos
    have hsame : (m.alLlamar e).registro = m.registro :=
      registro_ext (alLlamar_userjUno m e) (alLlamar_userjDos m e)
    have hsame' : (m.alLlamar e).suPuesto j = m.suPuesto j := by
      simp only [suPuesto, alLlamar_uid]
    refine ⟨m.suPuesto j, l, by rw [hl]; rfl, ?_, ?_, huid, ?_⟩
    · rw [registro_suPuesto, hl]
    · rw [hregistro, conPropio_registro, hsame, hsame']
    · rw [alLlamar_jugadaId] at hws
      exact ⟨coronada j, hws⟩

/-- The events that call `funcionGameover`. -/
theorem gameover_cases (he : e.esGameover = true)
    (h : react vista m e = some (m', ws)) (hlee : lectura m e = none) :
    (∃ p l, credito m e = some (p, l) ∧ Credita m p l m' ws) ∨
    (credito m e = none ∧
      ∃ p x, lectura m e = some (p, x) ∧ Carga vista m p x m' ws) ∨
    (credito m e = none ∧ lectura m e = none ∧ Respeta m m' ws) := by
  rcases react_gameover he h with hc | ⟨j, hj, ht⟩
  · right
    right
    have hnone := (m.alLlamar_jugada_none e).mp hc.antes
    refine ⟨?_, hlee, registro_ext ?_ ?_, ?_, ?_⟩
    · rw [credito, if_pos he, hnone, Option.bind_none]
    · rw [hc.userjUno, alLlamar_userjUno]
    · rw [hc.userjDos, alLlamar_userjDos]
    · rw [hc.base.afin.uid, alLlamar_uid]
    · rw [hc.writes]
      exact fun x l => List.not_mem_nil
  · rcases registro_gameover he hj ht with hcred | ⟨hno, hresp⟩
    · exact Or.inl hcred
    · exact Or.inr (Or.inr ⟨hno, hlee, hresp⟩)

/-- What an event does to the records. -/
theorem registro_cases (h : react vista m e = some (m', ws)) :
    (∃ p l, credito m e = some (p, l) ∧ Credita m p l m' ws) ∨
    (credito m e = none ∧
      ∃ p x, lectura m e = some (p, x) ∧ Carga vista m p x m' ws) ∨
    (credito m e = none ∧ lectura m e = none ∧ Respeta m m' ws) := by
  have hsilencio : ∀ {w : List Escritura}, w = [] → ∀ x l, .setUser x l ∉ w := by
    rintro w rfl x l
    exact List.not_mem_nil
  cases e using Suceso.casos with
  | user p =>
      obtain ⟨x, hx, hcarga⟩ := carga_user h
      exact Or.inr (Or.inl ⟨by cases p <;> rfl, p, x, hx, hcarga⟩)
  | clic imagen aleatorio =>
      right
      right
      obtain ⟨-, -, ⟨-, rfl, rfl⟩ | ⟨j, ht⟩⟩ := react_clic h
      · exact ⟨rfl, rfl, rfl, rfl, hsilencio rfl⟩
      · refine ⟨rfl, rfl, registro_ext ht.userjUno ht.userjDos, ht.uid, ?_⟩
        intro x l hmem
        rw [ht.writes, List.mem_singleton] at hmem
        exact absurd hmem (by simp)
  | onStart =>
      obtain ⟨-, t, ht, hcierra⟩ := react_eq_some h
      obtain ⟨-, ⟨⟩⟩ := Option.ite_none_right_eq_some.mp ht
      obtain ⟨rfl, rfl⟩ := Prod.mk.inj hcierra
      exact Or.inr (Or.inr ⟨rfl, rfl, rfl, rfl, hsilencio rfl⟩)
  | botonDialogo d =>
      obtain ⟨-, t, ht, hcierra⟩ := react_eq_some h
      obtain ⟨-, ⟨⟩⟩ := Option.ite_none_right_eq_some.mp ht
      obtain ⟨rfl, rfl⟩ := Prod.mk.inj hcierra
      obtain ⟨hws, _, _, _, hstate⟩ := botonDialogo_eq d m
      rw [hws, hstate]
      exact Or.inr (Or.inr ⟨rfl, rfl, rfl, rfl, hsilencio rfl⟩)
  | onFinishDial d =>
      obtain ⟨-, t, ht, hcierra⟩ := react_eq_some h
      obtain ⟨-, ⟨⟩⟩ := Option.ite_none_right_eq_some.mp ht
      obtain ⟨rfl, rfl⟩ := Prod.mk.inj hcierra
      exact Or.inr (Or.inr ⟨rfl, rfl, rfl, rfl, hsilencio rfl⟩)
  | onFinish t => exact gameover_cases rfl h rfl
  | onStop => exact gameover_cases rfl h rfl
  | onBackPressed => exact gameover_cases rfl h rfl

end Events

end Tocate.MultPlayer
