import Tocate.Partida.System

/-!
# One match screen

The screen alone, from `onCreate` on: its own events, with any database behind
them, and any snapshot its listener may be given.  For each step there is one
statement of what it leaves behind, clocks and dialogs included, and of when it
takes the app down.  A match between two devices moves each of its screens in
this way, which is shown at the end.
-/

namespace Tocate.MultPlayer

open Cloud

/-- What can happen to a match screen. -/
inductive Paso where
  /-- An event, while the device sees the database `vista`. -/
  | evento (vista : BaseDatos) (e : Suceso)
  /-- `onEvent` of the listener. -/
  | entrega (hasPendingWrites : Bool) (Snapshot : Option Jugada)

/-- The snapshot of the match that a step brings from the server. -/
def Paso.delServidor : Paso → Option Jugada
  | .entrega false Snapshot => Snapshot
  | _ => none

/-- The seat whose read a step answers. -/
def Paso.user? : Paso → Option Puesto
  | .evento _ .userUno => some .uno
  | .evento _ .userDos => some .dos
  | _ => none

def avanza (m : MultPlayer) : Paso → Option MultPlayer
  | .evento vista e => (react vista m e).map Prod.fst
  | .entrega hasPendingWrites Snapshot =>
      if m.escucha then some (cierra (onEvent hasPendingWrites Snapshot m)).1
      else none

theorem avanza_evento {m m' : MultPlayer} {vista : BaseDatos} {e : Suceso}
    (h : avanza m (.evento vista e) = some m') :
    ∃ t, m.caida = false ∧ atiende vista m e = some t ∧ m' = (cierra t).1 := by
  obtain ⟨⟨x, ws⟩, hr, rfl⟩ := Option.map_eq_some_iff.mp h
  obtain ⟨hcaida, t, ht, hcierra⟩ := react_eq_some hr
  exact ⟨t, hcaida, ht, (congrArg Prod.fst hcierra).symm⟩

theorem avanza_entrega {m m' : MultPlayer} {pend : Bool}
    {snap : Option Jugada} (h : avanza m (.entrega pend snap) = some m') :
    m.caida = false ∧ m.listenerJugada = true ∧
      m' = (cierra (onEvent pend snap m)).1 := by
  obtain ⟨hlis, ⟨⟩⟩ := Option.ite_none_right_eq_some.mp h
  simp only [escucha, Bool.and_eq_true, Bool.not_eq_true'] at hlis
  exact ⟨hlis.2, hlis.1, rfl⟩

/-- A snapshot that reaches a listener is a step of the screen. -/
theorem avanza_snapshot {m : MultPlayer} (h : m.escucha = true)
    (pendientes : List Escritura) (db : BaseDatos) :
    m.avanza (.entrega (pendientes.any (Escritura.toca m.jugadaId))
      (db.jugadas m.jugadaId)) = some (snapshot pendientes db m).1 := by
  have hviva : m.caida = false := by
    simp only [escucha, Bool.and_eq_true, Bool.not_eq_true'] at h
    exact h.2
  simp only [avanza, h, if_true, snapshot, hviva, Bool.false_eq_true, if_false]

theorem caida_of_avanza {m m' : MultPlayer} {a : Paso}
    (h : avanza m a = some m') : m.caida = false := by
  cases a with
  | evento vista e =>
      obtain ⟨t, hcaida, -⟩ := avanza_evento h
      exact hcaida
  | entrega pend snap => exact (avanza_entrega h).1

/-- A handler that ends normally leaves the state as it is. -/
theorem cierra_of_not_failed {t : Turno} (h : t.failed = false) :
    (cierra t).1 = t.state := by
  simp [cierra, h]

/-- The app is down after a handler that was cut short. -/
theorem caida_cierra {t : Turno} (h : t.failed = true) :
    (cierra t).1.caida = true := by
  simp [cierra, h]

/-! ## What each event does

Taps, records, the three callers of `funcionGameover` and snapshots, each with
the state it ends in or the reason why it takes the app down.  A handler that
is cut short has opened no dialog. -/

section Simp

variable (m : MultPlayer) (j : Jugada) (u : Leido)

@[simp] theorem conPropio_relojes : (m.conPropio j u).relojes = m.relojes := by
  unfold conPropio
  split <;> rfl

@[simp] theorem conPropio_countDownTimer :
    (m.conPropio j u).countDownTimer = m.countDownTimer := by
  unfold conPropio
  split <;> rfl

@[simp] theorem conPropio_caida : (m.conPropio j u).caida = m.caida := by
  unfold conPropio
  split <;> rfl

@[simp] theorem conPropio_pedidos :
    (m.conPropio j u).pedidos = m.pedidos := by
  unfold conPropio
  split <;> rfl

/-- Who has a record does not change when the record of the player is
replaced. -/
theorem conPropio_registro_ne_none (h : m.propio j ≠ none) (p : Puesto) :
    (m.conPropio j u).registro p ≠ none ↔ m.registro p ≠ none := by
  rw [conPropio_registro]
  rcases eq_or_ne p (m.suPuesto j) with rfl | hp
  · rw [Function.update_self, registro_suPuesto]
    exact iff_of_true (Option.some_ne_none u) h
  · rw [Function.update_of_ne hp]

end Simp

/-- The app is down and no dialog has been opened on the way. -/
def Cortada (m m' : MultPlayer) : Prop :=
  m'.caida = true ∧ m'.dialogos = m.dialogos

theorem not_cortada {m m' : MultPlayer} (hviva : m'.caida = false) :
    ¬Cortada m m' := by
  rintro ⟨hcaida, -⟩
  rw [hcaida] at hviva
  cases hviva

theorem avanza_clic {m m' : MultPlayer} {vista : BaseDatos} {imagen : Imagen}
    {aleatorio : Fin 3}
    (h : avanza m (.evento vista (.clic imagen aleatorio)) = some m') :
    (m.jugada = none ∧ Cortada m m') ∨
      ∃ j o, m.jugada = some j ∧
        m' =
          { m with
            cont1 := (m.cuenta imagen j).1
            cont2 := (m.cuenta imagen j).2
            tvAciertos := some (m.cuenta imagen j).1
            tvAciertos2 := some (m.cuenta imagen j).2
            n := aleatorio
            jugada := some (tocada j (m.cuenta imagen j) aleatorio)
            tvOrden := o } := by
  obtain ⟨t, -, ht, rfl⟩ := avanza_evento h
  obtain ⟨-, ⟨⟩⟩ := Option.ite_none_right_eq_some.mp ht
  cases hj : m.jugada with
  | none =>
      left
      simp [onClick, hj, falla, cierra, Cortada]
  | some j =>
      right
      obtain ⟨o, ho⟩ := onClick_eq hj imagen aleatorio
      refine ⟨j, o, rfl, ?_⟩
      rw [ho]
      exact cierra_of_not_failed rfl

theorem avanza_user {m m' : MultPlayer} {vista : BaseDatos} {p : Puesto}
    (h : avanza m (.evento vista (.user p)) = some m') :
    m.pedidos p ≠ [] ∧
      (Cortada m m' ∨ ∃ resto u nombre,
        m' = alLeer p resto (some u) nombre m) := by
  obtain ⟨t, -, ht, rfl⟩ := avanza_evento h
  obtain ⟨id, resto, hped, rfl⟩ := atiende_user ht
  refine ⟨by rw [hped]; exact List.cons_ne_nil id resto, ?_⟩
  cases vista.users id with
  | none => exact Or.inl ⟨caida_cierra rfl, by cases p <;> rfl⟩
  | some u => exact Or.inr ⟨resto, _, _, cierra_of_not_failed rfl⟩

/-- The match has arrived and so has the record of the player. -/
def Lista (m : MultPlayer) : Prop :=
  ∃ j, m.jugada = some j ∧ m.propio j ≠ none

/-- Whether match and record are there does not depend on the event that calls
`funcionGameover`. -/
theorem lista_alLlamar (m : MultPlayer) (e : Suceso) :
    (m.alLlamar e).Lista ↔ m.Lista := by
  cases e with
  | onBackPressed =>
      cases hj : m.jugada with
      | none => simp [Lista, alLlamar, hj]
      | some j =>
          constructor
          · rintro ⟨k, hk, hprop⟩
            simp only [alLlamar, hj, Option.map_some, Option.some.injEq] at hk
            subst hk
            exact ⟨j, hj, hprop⟩
          · rintro ⟨k, hk, hprop⟩
            rw [hj] at hk
            cases hk
            exact ⟨{ j with abandonoID := m.uid }, by simp [alLlamar, hj],
              hprop⟩
  | clic _ _ => exact Iff.rfl
  | userUno => exact Iff.rfl
  | userDos => exact Iff.rfl
  | onFinish _ => exact Iff.rfl
  | onStart => exact Iff.rfl
  | onStop => exact Iff.rfl
  | botonDialogo _ => exact Iff.rfl
  | onFinishDial _ => exact Iff.rfl

/-- A handler that begins with `funcionGameover` needs the match and the record
of the player; it puts the winner into the match and a new record in the place
of the old one. -/
theorem funcionGameover_cases {x m' : MultPlayer} {f : MultPlayer → Turno}
    (h : m' = (cierra ((funcionGameover x).andThen f)).1) :
    (¬x.Lista ∧ Cortada x m') ∨
      ∃ j u, x.jugada = some j ∧ x.propio j ≠ none ∧
        m' = (cierra (f
          (conPropio { x with jugada := some (coronada j) } j u))).1 := by
  subst h
  cases hj : x.jugada with
  | none => simp [funcionGameover, hj, falla, cierra, Cortada, Lista]
  | some j =>
      rw [funcionGameover_eq hj]
      cases hu : x.propio j with
      | none =>
          left
          simp [cierra, Cortada, Lista, hj, hu]
      | some u =>
          right
          refine ⟨j, u.acredita (puntosDe j x.uid), rfl, by simp [hu], ?_⟩
          simp only [Outcome.andThen_mk_false, cierra]

/-- What the three callers of `funcionGameover` do afterwards. -/
def despues : Suceso → MultPlayer → Turno
  | .onFinish _ => dialogo_Gameover true
  | .onBackPressed => fun m =>
      (cancelaCountDownTimer m).andThen fun m => sigue (finish m)
  | _ => cancelaCountDownTimer

/-- The three callers of `funcionGameover`. -/
theorem avanza_gameover {m m' : MultPlayer} {vista : BaseDatos} {e : Suceso}
    (he : e.esGameover = true) (h : avanza m (.evento vista e) = some m') :
    (¬m.Lista ∧ Cortada m m') ∨
      ∃ j u, (m.alLlamar e).jugada = some j ∧ (m.alLlamar e).propio j ≠ none ∧
        m' = (cierra (despues e
          (conPropio { m.alLlamar e with jugada := some (coronada j) }
            j u))).1 := by
  have hcortada : Cortada (m.alLlamar e) m' → Cortada m m' :=
    fun hc => ⟨hc.1, hc.2.trans (m.alLlamar_dialogos e)⟩
  rw [← lista_alLlamar m e]
  obtain ⟨t, -, ht, rfl⟩ := avanza_evento h
  obtain ⟨r, rfl⟩ | rfl | rfl := Suceso.esGameover_cases he
  · obtain ⟨-, ⟨⟩⟩ := Option.ite_none_right_eq_some.mp ht
    exact (funcionGameover_cases rfl).imp (And.imp_right hcortada) id
  · obtain ⟨-, ⟨⟩⟩ := Option.ite_none_right_eq_some.mp ht
    exact (funcionGameover_cases rfl).imp (And.imp_right hcortada) id
  · obtain ⟨-, ⟨⟩⟩ := Option.ite_none_right_eq_some.mp ht
    cases hj : m.jugada with
    | none =>
        left
        simp [onBackPressed, hj, falla, cierra, Cortada, Lista, alLlamar]
    | some j =>
        refine (funcionGameover_cases (x := m.alLlamar .onBackPressed) ?_).imp
          (And.imp_right hcortada) id
        simp only [onBackPressed, hj, alLlamar, Option.map_some]
        rfl

/-- A name is still missing, so that a snapshot asks for both records. -/
def Anonima (m : MultPlayer) : Prop := m.nombreJuno = "" ∨ m.nombreJdos = ""

/-- The records asked for cannot be: a seat of the match has no user. -/
def SinAsiento (j : Jugada) : Prop := j.jugadorUnoID = "" ∨ j.jugadorDosID = ""

/-- The state in which `recibirDBjugada` finds the screen. -/
def alRecibir (j : Jugada) (m : MultPlayer) : MultPlayer :=
  if m.nombreJuno = "" ∨ m.nombreJdos = "" then
    nuevoCountDownTimer
      (EtTocate
        { m with
          jugada := some j
          pedidosUno := m.pedidosUno ++ [j.jugadorUnoID]
          pedidosDos := m.pedidosDos ++ [j.jugadorDosID]
          n := j.tocate }
        j.tocate j.jugadorUnoID j.jugadorDosID m.uid)
  else { m with jugada := some j }

section AlRecibir

variable (m : MultPlayer) (j : Jugada)

@[simp] theorem alRecibir_jugada : (alRecibir j m).jugada = some j := by
  unfold alRecibir
  split <;> rfl

@[simp] theorem alRecibir_dialogos :
    (alRecibir j m).dialogos = m.dialogos := by
  unfold alRecibir
  split <;> rfl

@[simp] theorem alRecibir_iniciada :
    (alRecibir j m).iniciada = m.iniciada := by
  unfold alRecibir
  split <;> rfl

@[simp] theorem alRecibir_listenerJugada :
    (alRecibir j m).listenerJugada = m.listenerJugada := by
  unfold alRecibir
  split <;> rfl

@[simp] theorem alRecibir_uid : (alRecibir j m).uid = m.uid := by
  unfold alRecibir
  split <;> rfl

@[simp] theorem alRecibir_registro :
    (alRecibir j m).registro = m.registro := by
  unfold alRecibir
  split <;> rfl

@[simp] theorem alRecibir_caida : (alRecibir j m).caida = m.caida := by
  unfold alRecibir
  split <;> rfl

/-- The clocks after the snapshot has been looked at: one more, and the one
that is remembered, if a name is missing. -/
theorem alRecibir_relojes :
    ((alRecibir j m).relojes = m.relojes ++ [m.creados] ∧
      (alRecibir j m).countDownTimer = some m.creados ∧ m.Anonima) ∨
    ((alRecibir j m).relojes = m.relojes ∧
      (alRecibir j m).countDownTimer = m.countDownTimer ∧ ¬m.Anonima) := by
  unfold alRecibir
  split
  next hnombres => exact Or.inl ⟨rfl, rfl, hnombres⟩
  next hnombres => exact Or.inr ⟨rfl, rfl, hnombres⟩

end AlRecibir

/-- With both seats taken both records are asked for and the clock starts. -/
theorem primeraJugada_eq {m : MultPlayer} {j : Jugada}
    (hnombres : m.Anonima) (h : ¬SinAsiento j) :
    primeraJugada j { m with jugada := some j } = sigue (alRecibir j m) := by
  have huno : j.jugadorUnoID ≠ "" := fun hv => h (Or.inl hv)
  have hdos : j.jugadorDosID ≠ "" := fun hv => h (Or.inr hv)
  unfold Anonima at hnombres
  simp only [primeraJugada, getnombresJugadores, pideUserUno, pideUserDos,
    pideUser, pedidos, conPedidos, huno, hdos, if_false, sigue,
    Outcome.andThen_mk_false, List.nil_append, alRecibir, hnombres, if_true]

/-- An empty seat has no record to ask for. -/
theorem primeraJugada_cae {m : MultPlayer} {j : Jugada} (h : SinAsiento j) :
    (primeraJugada j { m with jugada := some j }).failed = true ∧
      (primeraJugada j { m with jugada := some j }).state.dialogos =
        m.dialogos := by
  by_cases huno : j.jugadorUnoID = ""
  · simp [primeraJugada, getnombresJugadores, pideUserUno, pideUser, huno,
      falla]
  · have hdos : j.jugadorDosID = "" := h.resolve_left huno
    simp [primeraJugada, getnombresJugadores, pideUserUno, pideUserDos,
      pideUser, conPedidos, huno, hdos, falla, sigue]

/-- A snapshot that the listener takes. -/
theorem onEvent_eq (m : MultPlayer) (j : Jugada) :
    (m.Anonima ∧ SinAsiento j ∧ (onEvent false (some j) m).failed = true ∧
      (onEvent false (some j) m).state.dialogos = m.dialogos) ∨
    (¬(m.Anonima ∧ SinAsiento j) ∧
      onEvent false (some j) m = recibirDBjugada (alRecibir j m)) := by
  by_cases hnombres : m.Anonima
  · have hpide : onEvent false (some j) m =
        (primeraJugada j { m with jugada := some j }).andThen
          recibirDBjugada := by
      unfold Anonima at hnombres
      simp only [onEvent, Bool.false_eq_true, if_false, hnombres, if_true]
    rw [hpide]
    by_cases hvacio : SinAsiento j
    · left
      obtain ⟨hfalla, hdial⟩ := primeraJugada_cae (m := m) hvacio
      simp only [Outcome.andThen, hfalla, if_true]
      exact ⟨hnombres, hvacio, trivial, hdial⟩
    · right
      rw [primeraJugada_eq hnombres hvacio]
      exact ⟨fun h => hvacio h.2, rfl⟩
  · right
    refine ⟨fun h => hnombres h.1, ?_⟩
    unfold Anonima at hnombres
    simp only [onEvent, Bool.false_eq_true, if_false, hnombres, alRecibir]
    rfl

/-- The screen after `dialogo_Gameover` has opened its dialog. -/
def conDialogo (Salirjue : Bool) (j : Jugada) (m : MultPlayer) : MultPlayer :=
  { m with
    dialogos := m.dialogos ++
      [{ tvGanador := m.veredicto j
         tvTitulo := m.titulo j Salirjue
         tvPuntos := if j.jugadorUnoID = m.uid then m.cont1 else m.cont2 }]
    abiertos := m.abiertos ++ [m.creados]
    countDownTimerDial := some m.creados
    relojesDial := m.relojesDial ++ [m.creados]
    creados := m.creados + 1 }

/-- A screen that is gone has no window for the dialog. -/
theorem dialogo_Gameover_eq {m : MultPlayer} {j : Jugada} (Salirjue : Bool)
    (hj : m.jugada = some j) :
    dialogo_Gameover Salirjue m =
      if m.terminada && !m.iniciada then falla m
      else sigue (conDialogo Salirjue j m) := by
  unfold dialogo_Gameover
  split
  next hno => exact absurd (hj.symm.trans hno) (Option.some_ne_none j)
  next k hk =>
    rw [hj] at hk
    cases hk
    rfl

theorem cancelaCountDownTimer_eq {m : MultPlayer} {t : ℕ}
    (ht : m.countDownTimer = some t) :
    cancelaCountDownTimer m = sigue { m with relojes := m.relojes.erase t } := by
  unfold cancelaCountDownTimer
  split
  next hno => exact absurd (ht.symm.trans hno) (Option.some_ne_none t)
  next r hr =>
    rw [ht] at hr
    cases hr
    rfl

@[simp] theorem sigue_andThen (m : MultPlayer) (f : MultPlayer → Turno) :
    (sigue m).andThen f = f m := rfl

@[simp] theorem cierra_sigue (m : MultPlayer) : (cierra (sigue m)).1 = m :=
  cierra_of_not_failed rfl

/-- An abandoned match: the clock that is remembered stops and the dialog is
opened. -/
theorem recibirDBjugada_abandono {x : MultPlayer} {j : Jugada} {t : ℕ}
    (hj : x.jugada = some j) (habandono : j.abandonoID ≠ "")
    (ht : x.countDownTimer = some t) (hinic : x.iniciada = true) :
    recibirDBjugada x =
      sigue (conDialogo false j { x with relojes := x.relojes.erase t }) := by
  unfold recibirDBjugada
  split
  next hno => exact absurd (hj.symm.trans hno) (Option.some_ne_none j)
  next k hk =>
    rw [hj] at hk
    cases hk
    rw [if_neg habandono, cancelaCountDownTimer_eq ht, sigue_andThen]
    refine (dialogo_Gameover_eq
      (m := { x with relojes := x.relojes.erase t }) false hj).trans ?_
    exact if_neg (by simp [hinic])

/-- The screen after `recibirDBjugada` has dealt with a match that goes on. -/
def alSeguir (j : Jugada) (m : MultPlayer) : MultPlayer :=
  EtTocate
    { alRecibir j m with
      tvAciertos := some j.puntosjugadorUnoID
      tvAciertos2 := some j.puntosjugadorDosID }
    j.tocate j.jugadorUnoID j.jugadorDosID m.uid

/-- A snapshot is passed over, takes the app down because a seat has no user,
or is taken: the match goes on, or it has been abandoned, the clock that is
remembered stops and the dialog is opened. -/
theorem avanza_entrega_cases {m m' : MultPlayer} {pend : Bool}
    {snap : Option Jugada} (hinic : m.iniciada = true)
    (hreloj : ∀ j, ((alRecibir j m).countDownTimer ≠ none))
    (h : avanza m (.entrega pend snap) = some m') :
    ((pend = true ∨ snap = none) ∧ m' = m) ∨
      ∃ j, pend = false ∧ snap = some j ∧
        ((m.Anonima ∧ SinAsiento j ∧ Cortada m m') ∨
          (¬(m.Anonima ∧ SinAsiento j) ∧ j.abandonoID = "" ∧
            m' = alSeguir j m) ∨
          (¬(m.Anonima ∧ SinAsiento j) ∧ j.abandonoID ≠ "" ∧
            ∃ t, (alRecibir j m).countDownTimer = some t ∧
              m' = conDialogo false j
                { alRecibir j m with
                  relojes := (alRecibir j m).relojes.erase t })) := by
  obtain ⟨hcaida, -, rfl⟩ := avanza_entrega h
  cases snap with
  | none => exact Or.inl ⟨Or.inr rfl, cierra_of_not_failed rfl⟩
  | some j =>
      cases pend with
      | true => exact Or.inl ⟨Or.inl rfl, cierra_of_not_failed rfl⟩
      | false =>
          refine Or.inr ⟨j, rfl, rfl, ?_⟩
          rcases onEvent_eq m j with ⟨hnom, hvacio, hfalla, hdial⟩ | ⟨hno, heq⟩
          · exact Or.inl ⟨hnom, hvacio, caida_cierra hfalla, hdial⟩
          · right
            rw [heq]
            by_cases hab : j.abandonoID = ""
            · left
              refine ⟨hno, hab, ?_⟩
              simp only [recibirDBjugada, alRecibir_jugada, hab, if_true,
                alRecibir_uid, cierra_sigue, alSeguir]
            · right
              obtain ⟨t, ht⟩ := Option.ne_none_iff_exists'.mp (hreloj j)
              refine ⟨hno, hab, t, ht, ?_⟩
              rw [recibirDBjugada_abandono (alRecibir_jugada m j) hab ht
                ((alRecibir_iniciada m j).trans hinic), cierra_sigue]

/-! ## What every event keeps -/

/-- What a step leaves alone that neither receives a record nor takes a
snapshot. -/
structure Conserva (m m' : MultPlayer) : Prop where
  uid : m'.uid = m.uid
  asiento :
    m'.jugada.map Jugada.jugadorUnoID = m.jugada.map Jugada.jugadorUnoID
  countDownTimer : m'.countDownTimer = m.countDownTimer
  nombreJuno : m'.nombreJuno = m.nombreJuno
  nombreJdos : m'.nombreJdos = m.nombreJdos
  registro : ∀ p, m'.registro p ≠ none ↔ m.registro p ≠ none
  pedidos : ∀ p, m'.pedidos p ⊆ m.pedidos p
  relojes : m'.relojes ⊆ m.relojes

theorem Conserva.jugada {m m' : MultPlayer} (h : Conserva m m') :
    m'.jugada = none ↔ m.jugada = none := by
  rw [← Option.map_eq_none_iff (f := Jugada.jugadorUnoID), h.asiento,
    Option.map_eq_none_iff]

theorem Conserva.trans {x y z : MultPlayer} (h : Conserva x y)
    (h' : Conserva y z) : Conserva x z where
  uid := h'.uid.trans h.uid
  asiento := h'.asiento.trans h.asiento
  countDownTimer := h'.countDownTimer.trans h.countDownTimer
  nombreJuno := h'.nombreJuno.trans h.nombreJuno
  nombreJdos := h'.nombreJdos.trans h.nombreJdos
  registro p := (h'.registro p).trans (h.registro p)
  pedidos p := List.Subset.trans (h'.pedidos p) (h.pedidos p)
  relojes := List.Subset.trans h'.relojes h.relojes

/-- Texts, dialogs and the life cycle are not among what is kept. -/
theorem Conserva.of_igual {m m' : MultPlayer} (huid : m'.uid = m.uid)
    (hjug : m'.jugada = m.jugada)
    (hreloj : m'.countDownTimer = m.countDownTimer)
    (huno : m'.nombreJuno = m.nombreJuno) (hdos : m'.nombreJdos = m.nombreJdos)
    (hreg : m'.registro = m.registro) (hped : m'.pedidos = m.pedidos)
    (hrel : m'.relojes ⊆ m.relojes) : Conserva m m' :=
  ⟨huid, by rw [hjug], hreloj, huno, hdos, fun _ => by rw [hreg],
    fun _ => by rw [hped]; exact List.Subset.refl _, hrel⟩

theorem conserva_alLlamar (m : MultPlayer) (e : Suceso) :
    Conserva m (m.alLlamar e) := by
  have hsame : Conserva m m :=
    .of_igual rfl rfl rfl rfl rfl rfl rfl (List.Subset.refl _)
  cases e with
  | onFinish t =>
      exact .of_igual rfl rfl rfl rfl rfl rfl rfl List.erase_subset
  | onStop =>
      refine ⟨rfl, rfl, rfl, rfl, rfl, fun _ => Iff.rfl, fun p => ?_,
        List.Subset.refl _⟩
      cases p with
      | uno => exact List.nil_subset _
      | dos => exact List.nil_subset _
  | onBackPressed =>
      refine ⟨rfl, ?_, rfl, rfl, rfl, fun _ => Iff.rfl,
        fun _ => List.Subset.refl _, List.Subset.refl _⟩
      cases hj : m.jugada <;> simp [alLlamar, hj]
  | clic _ _ => exact hsame
  | userUno => exact hsame
  | userDos => exact hsame
  | onStart => exact hsame
  | botonDialogo _ => exact hsame
  | onFinishDial _ => exact hsame

/-- `funcionGameover` puts a match and a record where there were others. -/
theorem conserva_conPropio {x : MultPlayer} {j : Jugada} (u : Leido)
    (hj : x.jugada = some j) (hprop : x.propio j ≠ none) :
    Conserva x (conPropio { x with jugada := some (coronada j) } j u) := by
  refine ⟨by simp, by simp [hj, coronada], by simp, ?_, ?_,
    conPropio_registro_ne_none _ j u hprop, fun p => ?_, by simp⟩
  · unfold conPropio
    split <;> rfl
  · unfold conPropio
    split <;> rfl
  · rw [conPropio_pedidos]
    exact List.Subset.refl _

/-- What a match screen relies on: before the first snapshot there are neither
names nor requests nor clocks, afterwards there is a clock to cancel, and the
listener is on while the screen is started only. -/
structure Sana (m : MultPlayer) : Prop where
  virgen : m.jugada = none →
    m.nombreJuno = "" ∧ m.nombreJdos = "" ∧ (∀ p, m.pedidos p = []) ∧
      m.relojes = []
  reloj : m.jugada ≠ none → m.countDownTimer ≠ none
  oye : m.listenerJugada = true → m.iniciada = true

theorem sana_creada (uid jugadaId : String) : Sana (creada uid jugadaId) :=
  ⟨fun _ => ⟨rfl, rfl, fun p => by cases p <;> rfl, rfl⟩,
    fun h => absurd rfl h, nofun⟩

theorem Sana.alRecibir_reloj {m : MultPlayer} (h : Sana m) (j : Jugada) :
    (alRecibir j m).countDownTimer ≠ none := by
  rcases alRecibir_relojes m j with ⟨-, hreloj, -⟩ | ⟨-, hreloj, hnom⟩
  · rw [hreloj]
    exact Option.some_ne_none _
  · rw [hreloj]
    exact h.reloj fun hj => hnom (Or.inl (h.virgen hj).1)

theorem Sana.of_conserva {m m' : MultPlayer} (h : Sana m)
    (hc : Conserva m m')
    (hoye : m'.listenerJugada = true → m'.iniciada = true) : Sana m' := by
  refine ⟨fun hj => ?_, fun hj => ?_, hoye⟩
  · obtain ⟨huno, hdos, hped, hrel⟩ := h.virgen (hc.jugada.mp hj)
    exact ⟨hc.nombreJuno.trans huno, hc.nombreJdos.trans hdos,
      fun p => List.subset_nil.mp (hped p ▸ hc.pedidos p),
      List.subset_nil.mp (hrel ▸ hc.relojes)⟩
  · rw [hc.countDownTimer]
    exact h.reloj (mt hc.jugada.mpr hj)

/-- A step that touches neither the clocks nor the dialogs nor the life
cycle. -/
structure Intacta (m m' : MultPlayer) : Prop where
  conserva : Conserva m m'
  relojes : m'.relojes = m.relojes
  dialogos : m'.dialogos = m.dialogos
  iniciada : m'.iniciada = m.iniciada
  listenerJugada : m'.listenerJugada = m.listenerJugada

theorem intacta_refl (m : MultPlayer) : Intacta m m :=
  ⟨.of_igual rfl rfl rfl rfl rfl rfl rfl (List.Subset.refl _), rfl, rfl, rfl, rfl⟩

theorem avanza_clic_intacta {m m' : MultPlayer} {vista : BaseDatos}
    {imagen : Imagen} {aleatorio : Fin 3}
    (h : avanza m (.evento vista (.clic imagen aleatorio)) = some m') :
    (m.jugada = none ∧ Cortada m m') ∨ (m.jugada ≠ none ∧ Intacta m m') := by
  rcases avanza_clic h with hcorta | ⟨j, o, hj, rfl⟩
  · exact Or.inl hcorta
  · refine Or.inr ⟨by simp [hj], ⟨rfl, ?_, rfl, rfl, rfl, fun _ => Iff.rfl,
      fun _ => List.Subset.refl _, List.Subset.refl _⟩, rfl, rfl, rfl, rfl⟩
    simp [hj, tocada]

theorem avanza_botones {m m' : MultPlayer} {vista : BaseDatos} {e : Suceso}
    (he : (∃ d, e = .botonDialogo d) ∨ ∃ d, e = .onFinishDial d)
    (h : avanza m (.evento vista e) = some m') :
    Cortada m m' ∨ Intacta m m' := by
  obtain ⟨t, -, ht, rfl⟩ := avanza_evento h
  obtain ⟨d, rfl⟩ | ⟨d, rfl⟩ := he
  · obtain ⟨-, ⟨⟩⟩ := Option.ite_none_right_eq_some.mp ht
    unfold botonDialogo
    split
    · exact Or.inl ⟨caida_cierra rfl, rfl⟩
    · right
      rw [cierra_sigue]
      exact ⟨.of_igual rfl rfl rfl rfl rfl rfl rfl (List.Subset.refl _), rfl, rfl, rfl, rfl⟩
  · obtain ⟨-, ⟨⟩⟩ := Option.ite_none_right_eq_some.mp ht
    right
    rw [onFinishDial, cierra_sigue]
    exact ⟨.of_igual rfl rfl rfl rfl rfl rfl rfl (List.Subset.refl _), rfl, rfl, rfl, rfl⟩

theorem avanza_onStart {m m' : MultPlayer} {vista : BaseDatos}
    (h : avanza m (.evento vista .onStart) = some m') :
    m.iniciada = false ∧
      m' = { m with iniciada := true, listenerJugada := true } := by
  obtain ⟨t, -, ht, rfl⟩ := avanza_evento h
  obtain ⟨hcond, ⟨⟩⟩ := Option.ite_none_right_eq_some.mp ht
  exact ⟨by simpa using hcond.1, cierra_sigue _⟩

/-- The screen `x` in which `funcionGameover` returns to its caller `e`. -/
structure Devuelta (m : MultPlayer) (e : Suceso) (x : MultPlayer) : Prop where
  lista : m.Lista
  conserva : Conserva m x
  coronada : ∃ j, x.jugada = some (coronada j)
  relojes : x.relojes = (m.alLlamar e).relojes
  dialogos : x.dialogos = m.dialogos
  iniciada : x.iniciada = (m.alLlamar e).iniciada
  terminada : x.terminada = m.terminada
  listenerJugada : x.listenerJugada = (m.alLlamar e).listenerJugada
  caida : x.caida = m.caida

theorem devuelta_conPropio {m : MultPlayer} {e : Suceso} {j : Jugada}
    (u : Leido) (hj : (m.alLlamar e).jugada = some j)
    (hprop : (m.alLlamar e).propio j ≠ none) :
    Devuelta m e
      (conPropio { m.alLlamar e with jugada := some (coronada j) } j u) where
  lista := (lista_alLlamar m e).mp ⟨j, hj, hprop⟩
  conserva := (conserva_alLlamar m e).trans (conserva_conPropio u hj hprop)
  coronada := ⟨j, conPropio_jugada _ j u⟩
  relojes := conPropio_relojes _ j u
  dialogos := (conPropio_dialogos _ j u).trans (m.alLlamar_dialogos e)
  iniciada := conPropio_iniciada _ j u
  terminada := (conPropio_terminada _ j u).trans (by cases e <;> rfl)
  listenerJugada := conPropio_listenerJugada _ j u
  caida := (conPropio_caida _ j u).trans (by cases e <;> rfl)

theorem avanza_devuelta {m m' : MultPlayer} {vista : BaseDatos} {e : Suceso}
    (he : e.esGameover = true) (h : avanza m (.evento vista e) = some m') :
    (¬m.Lista ∧ Cortada m m') ∨
      ∃ x, Devuelta m e x ∧ m' = (cierra (despues e x)).1 := by
  rcases avanza_gameover he h with hno | ⟨j, u, hj, hprop, hm'⟩
  · exact Or.inl hno
  · exact Or.inr ⟨_, devuelta_conPropio u hj hprop, hm'⟩

theorem Devuelta.jugada_ne_none {m x : MultPlayer} {e : Suceso}
    (hx : Devuelta m e x) : m.jugada ≠ none := by
  obtain ⟨j, hj, -⟩ := hx.lista
  rw [hj]
  exact Option.some_ne_none j

/-- The match clock `t` runs out: the dialog is opened, unless a record is
missing or the window is gone. -/
theorem avanza_onFinish {m m' : MultPlayer} {vista : BaseDatos} {t : ℕ}
    (h : avanza m (.evento vista (.onFinish t)) = some m') :
    (¬m.Lista ∧ Cortada m m') ∨
      (m.Lista ∧ m.terminada = true ∧ m.iniciada = false ∧ Cortada m m') ∨
      (m.Lista ∧ (m.terminada = true → m.iniciada = true) ∧ Conserva m m' ∧
        m'.relojes = m.relojes.erase t ∧
        (∃ d, m'.dialogos = m.dialogos ++ [d]) ∧
        m'.iniciada = m.iniciada ∧ m'.listenerJugada = m.listenerJugada) := by
  rcases avanza_devuelta rfl h with hno | ⟨x, hx, rfl⟩
  · exact Or.inl hno
  obtain ⟨j, hj⟩ := hx.coronada
  have hinic : x.iniciada = m.iniciada := hx.iniciada
  simp only [despues]
  rw [dialogo_Gameover_eq true hj, hx.terminada, hinic]
  split
  next hventana =>
    simp only [Bool.and_eq_true, Bool.not_eq_true'] at hventana
    exact Or.inr (Or.inl ⟨hx.lista, hventana.1, hventana.2, caida_cierra rfl,
      hx.dialogos⟩)
  next hventana =>
    simp only [Bool.and_eq_true, Bool.not_eq_true', not_and,
      Bool.not_eq_false] at hventana
    rw [cierra_sigue]
    exact Or.inr (Or.inr ⟨hx.lista, hventana, hx.conserva.trans
      (.of_igual rfl rfl rfl rfl rfl rfl rfl (List.Subset.refl _)), hx.relojes,
      ⟨_, congrArg (· ++ [_]) hx.dialogos⟩, hinic, hx.listenerJugada⟩)

/-- The caller stops the clock that is remembered. -/
theorem Devuelta.reloj {m x : MultPlayer} {e : Suceso} (hs : Sana m)
    (hx : Devuelta m e x) :
    ∃ t, m.countDownTimer = some t ∧ x.countDownTimer = some t := by
  obtain ⟨t, ht⟩ := Option.ne_none_iff_exists'.mp (hs.reloj hx.jugada_ne_none)
  exact ⟨t, ht, hx.conserva.countDownTimer.trans ht⟩

/-- Leaving and going back stop the clock that is remembered. -/
theorem avanza_onStop {m m' : MultPlayer} {vista : BaseDatos} (hs : Sana m)
    (h : avanza m (.evento vista .onStop) = some m') :
    (¬m.Lista ∧ Cortada m m') ∨
      (m.Lista ∧ Conserva m m' ∧
        (∃ t, m.countDownTimer = some t ∧ m'.relojes = m.relojes.erase t) ∧
        m'.dialogos = m.dialogos ∧ m'.iniciada = false ∧
        m'.listenerJugada = false) := by
  rcases avanza_devuelta rfl h with hno | ⟨x, hx, rfl⟩
  · exact Or.inl hno
  obtain ⟨t, ht, htimer⟩ := hx.reloj hs
  simp only [despues]
  rw [cancelaCountDownTimer_eq htimer, cierra_sigue]
  refine Or.inr ⟨hx.lista, hx.conserva.trans
    (.of_igual rfl rfl rfl rfl rfl rfl rfl List.erase_subset), ⟨t, ht, ?_⟩, ?_, ?_, ?_⟩
  · exact congrArg (List.erase · t) hx.relojes
  · exact hx.dialogos
  · exact hx.iniciada
  · exact hx.listenerJugada

theorem avanza_onBackPressed {m m' : MultPlayer} {vista : BaseDatos}
    (hs : Sana m) (h : avanza m (.evento vista .onBackPressed) = some m') :
    m.iniciada = true ∧
      ((¬m.Lista ∧ Cortada m m') ∨
        (m.Lista ∧ Conserva m m' ∧
          (∃ t, m.countDownTimer = some t ∧ m'.relojes = m.relojes.erase t) ∧
          m'.dialogos = m.dialogos ∧ m'.iniciada = m.iniciada ∧
          m'.listenerJugada = m.listenerJugada ∧ m'.caida = false)) := by
  obtain ⟨_, hcaida, hat, -⟩ := avanza_evento h
  obtain ⟨hcond, -⟩ := Option.ite_none_right_eq_some.mp hat
  refine ⟨hcond.1, ?_⟩
  rcases avanza_devuelta rfl h with hno | ⟨x, hx, rfl⟩
  · exact Or.inl hno
  obtain ⟨t, ht, htimer⟩ := hx.reloj hs
  simp only [despues]
  rw [cancelaCountDownTimer_eq htimer, sigue_andThen, cierra_sigue]
  refine Or.inr ⟨hx.lista, hx.conserva.trans
    (.of_igual rfl rfl rfl rfl rfl rfl rfl List.erase_subset), ⟨t, ht, ?_⟩, ?_, ?_, ?_, ?_⟩
  · exact congrArg (List.erase · t) hx.relojes
  · exact hx.dialogos
  · exact hx.iniciada
  · exact hx.listenerJugada
  · exact hx.caida.trans hcaida

/-- What a snapshot leaves behind that the listener takes: the match, with a
clock to cancel. -/
structure Tomada (j : Jugada) (m m' : MultPlayer) : Prop where
  jugada : m'.jugada = some j
  reloj : m'.countDownTimer = (alRecibir j m).countDownTimer
  uid : m'.uid = m.uid
  registro : m'.registro = m.registro
  iniciada : m'.iniciada = m.iniciada
  listenerJugada : m'.listenerJugada = m.listenerJugada

theorem tomada_alSeguir (j : Jugada) (m : MultPlayer) :
    Tomada j m (alSeguir j m) :=
  ⟨alRecibir_jugada m j, rfl, alRecibir_uid m j, alRecibir_registro m j,
    alRecibir_iniciada m j, alRecibir_listenerJugada m j⟩

theorem tomada_conDialogo (j : Jugada) (m : MultPlayer) (t : ℕ) :
    Tomada j m (conDialogo false j
      { alRecibir j m with relojes := (alRecibir j m).relojes.erase t }) :=
  ⟨alRecibir_jugada m j, rfl, alRecibir_uid m j, alRecibir_registro m j,
    alRecibir_iniciada m j, alRecibir_listenerJugada m j⟩

/-- What a step does that the app survives: a record arrives, a snapshot is
taken, or nothing of the match screen's data is replaced. -/
theorem avanza_cases {m m' : MultPlayer} {a : Paso} (hs : Sana m)
    (h : avanza m a = some m') (hviva : m'.caida = false) :
    (∃ vista p resto u nombre, a = .evento vista (.user p) ∧
      m.pedidos p ≠ [] ∧ m' = alLeer p resto (some u) nombre m) ∨
    (∃ j, a = .entrega false (some j) ∧ Tomada j m m') ∨
    (a.user? = none ∧ a.delServidor = none ∧ Conserva m m' ∧
      (m'.listenerJugada = true → m'.iniciada = true)) := by
  have hcorta : ¬Cortada m m' := not_cortada hviva
  have hoye : m'.iniciada = m.iniciada →
      m'.listenerJugada = m.listenerJugada →
      m'.listenerJugada = true → m'.iniciada = true := by
    intro hinic hlis htrue
    rw [hinic]
    exact hs.oye (hlis ▸ htrue)
  cases a with
  | entrega pend snap =>
      have hlis := (avanza_entrega h).2.1
      rcases avanza_entrega_cases (hs.oye hlis) hs.alRecibir_reloj h with
        ⟨hpasa, rfl⟩ | ⟨j, rfl, rfl, ⟨-, -, hc⟩ | ⟨-, -, rfl⟩ | ⟨-, -, t, -, rfl⟩⟩
      · refine Or.inr (Or.inr ⟨rfl, ?_, (intacta_refl m').conserva, hs.oye⟩)
        rcases hpasa with rfl | rfl
        · rfl
        · cases pend <;> rfl
      · exact absurd hc hcorta
      · exact Or.inr (Or.inl ⟨j, rfl, tomada_alSeguir j m⟩)
      · exact Or.inr (Or.inl ⟨j, rfl, tomada_conDialogo j m t⟩)
  | evento vista e =>
      cases e using Suceso.casos with
      | user p =>
          obtain ⟨hped, hc | ⟨resto, u, nombre, rfl⟩⟩ := avanza_user h
          · exact absurd hc hcorta
          · exact Or.inl ⟨vista, p, resto, u, nombre, rfl, hped, rfl⟩
      | clic imagen aleatorio =>
          rcases avanza_clic_intacta h with ⟨-, hc⟩ | ⟨-, hi⟩
          · exact absurd hc hcorta
          · exact Or.inr (Or.inr ⟨rfl, rfl, hi.conserva,
              hoye hi.iniciada hi.listenerJugada⟩)
      | botonDialogo d =>
          rcases avanza_botones (Or.inl ⟨d, rfl⟩) h with hc | hi
          · exact absurd hc hcorta
          · exact Or.inr (Or.inr ⟨rfl, rfl, hi.conserva,
              hoye hi.iniciada hi.listenerJugada⟩)
      | onFinishDial d =>
          rcases avanza_botones (Or.inr ⟨d, rfl⟩) h with hc | hi
          · exact absurd hc hcorta
          · exact Or.inr (Or.inr ⟨rfl, rfl, hi.conserva,
              hoye hi.iniciada hi.listenerJugada⟩)
      | onStart =>
          obtain ⟨-, rfl⟩ := avanza_onStart h
          exact Or.inr (Or.inr ⟨rfl, rfl,
            .of_igual rfl rfl rfl rfl rfl rfl rfl (List.Subset.refl _),
            fun _ => rfl⟩)
      | onFinish t =>
          rcases avanza_onFinish h with ⟨-, hc⟩ | ⟨-, -, -, hc⟩ |
            ⟨-, -, hcons, -, -, hinic, hlis⟩
          · exact absurd hc hcorta
          · exact absurd hc hcorta
          · exact Or.inr (Or.inr ⟨rfl, rfl, hcons, hoye hinic hlis⟩)
      | onStop =>
          rcases avanza_onStop hs h with ⟨-, hc⟩ | ⟨-, hcons, -, -, -, hlis⟩
          · exact absurd hc hcorta
          · refine Or.inr (Or.inr ⟨rfl, rfl, hcons, ?_⟩)
            rw [hlis]
            exact nofun
      | onBackPressed =>
          rcases (avanza_onBackPressed hs h).2 with ⟨-, hc⟩ |
            ⟨-, hcons, -, -, hinic, hlis, -⟩
          · exact absurd hc hcorta
          · exact Or.inr (Or.inr ⟨rfl, rfl, hcons, hoye hinic hlis⟩)

theorem Sana.paso {m m' : MultPlayer} {a : Paso} (hs : Sana m)
    (h : avanza m a = some m') (hviva : m'.caida = false) : Sana m' := by
  rcases avanza_cases hs h hviva with
    ⟨vista, p, resto, u, nombre, rfl, hped, rfl⟩ | ⟨j, rfl, ht⟩ |
    ⟨-, -, hcons, hoye⟩
  · refine ⟨fun hj => ?_, fun hj => ?_, fun hlis => ?_⟩
    · rw [alLeer_jugada] at hj
      exact absurd ((hs.virgen hj).2.2.1 p) hped
    · rw [alLeer_jugada] at hj
      rw [alLeer_countDownTimer]
      exact hs.reloj hj
    · rw [alLeer_listenerJugada] at hlis
      rw [alLeer_iniciada]
      exact hs.oye hlis
  · refine ⟨fun hj => ?_, fun _ => ?_, fun hlis => ?_⟩
    · rw [ht.jugada] at hj
      cases hj
    · rw [ht.reloj]
      exact hs.alRecibir_reloj j
    · rw [ht.iniciada]
      exact hs.oye (ht.listenerJugada ▸ hlis)
  · exact hs.of_conserva hcons hoye

end Tocate.MultPlayer

namespace Tocate.Partida

open Cloud

/-! ## The screens of a match -/

/-- On the device of a player only the match screen moves. -/
theorem react_avanza {db vista : BaseDatos} {m : MultPlayer} {e : Suceso}
    {r : MultPlayer × List Escritura} (h : react db vista m e = some r) :
    r.1 = m ∨ ∃ a, m.avanza a = some r.1 := by
  rcases react_cases h with ⟨e', -, hreact, -⟩ | ⟨hsame, -⟩
  · exact Or.inr ⟨.evento vista e', congrArg (Option.map Prod.fst) hreact⟩
  · exact Or.inl hsame

/-- A step of the match moves the screen of each player as it moves alone, or
leaves it. -/
theorem step_avanza {s s' : Estado} {a : Paso} (hq : programa.Quiet s)
    (h : programa.step s a = some s') (l : Lado) :
    s'.client l = s.client l ∨ ∃ b, (s.client l).avanza b = some (s'.client l) := by
  rcases Program.step_at h l with ⟨e, r, rfl, hr, rfl⟩ |
    ⟨w, ws, rfl, -, rfl⟩ | ⟨w, ok, rest, rfl, -, rfl⟩ |
    ⟨d, rest, rfl, hbox, rfl⟩ | hidle
  · rw [Program.settle_client_self]
    exact react_avanza hr
  · exact Or.inl rfl
  · exact Or.inl (Program.settle_client_self _)
  · rw [Program.settle_client_self]
    exact Or.inr ⟨_, MultPlayer.avanza_snapshot (hq.listens hbox) _ d⟩
  · exact Or.inl hidle.client

/-- In a match each player's screen makes a run of its own. -/
theorem run_avanza {s t : Estado} {acts : List Paso} (hq : programa.Quiet s)
    (h : Runs.run programa.step s acts = some t) (l : Lado) :
    ∃ pasos, Runs.run MultPlayer.avanza (s.client l) pasos =
      some (t.client l) := by
  induction acts generalizing s with
  | nil =>
      cases h
      exact ⟨[], rfl⟩
  | cons a acts ih =>
      obtain ⟨s', hstep, hrest⟩ := Runs.run_cons_eq_some h
      obtain ⟨pasos, hpasos⟩ := ih (Program.step_quiet hq hstep) hrest
      rcases step_avanza hq hstep l with hsame | ⟨b, hb⟩
      · exact ⟨pasos, hsame ▸ hpasos⟩
      · exact ⟨b :: pasos, by rw [Runs.run_cons, hb]; exact hpasos⟩

end Tocate.Partida
