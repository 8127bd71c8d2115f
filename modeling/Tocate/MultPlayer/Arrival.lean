import Tocate.MultPlayer.Steps

/-!
# What has arrived

The match, the clock and the records of the players are filled in by replies
that may come in any order and at any time, while the images and the life cycle
are live from the start.  The screen holds exactly what it has been sent, so
whether a handler finds what it reads can be told from the order of the events
alone.
-/

namespace Tocate.MultPlayer

open Cloud

/-- What the handler of a step dereferences is there when it does so: the match
and the record of the player in taps and in the callers of `funcionGameover`,
the match again where a photo is asked for and where the dialog is filled in,
the clock where it is cancelled. -/
def Alcanza (m : MultPlayer) : Paso → Prop
  | .evento _ (.clic imagen aleatorio) =>
      (onClick imagen aleatorio m).failed = false
  | .evento _ .userUno | .evento _ .userDos => m.jugada ≠ none
  | .evento _ (.onFinish t) =>
      let o := funcionGameover { m with relojes := m.relojes.erase t }
      o.failed = false ∧ o.state.jugada ≠ none
  | .evento _ .onStop => (onStop m).failed = false
  | .evento _ .onBackPressed => (onBackPressed m).failed = false
  | .entrega false (some j) =>
      let o := (if m.nombreJuno = "" ∨ m.nombreJdos = "" then primeraJugada j
        else sigue) { m with jugada := some j }
      o.failed = false → o.state.jugada ≠ none ∧
        (j.abandonoID ≠ "" → o.state.countDownTimer ≠ none)
  | _ => True

/-- The last match the listener has been given. -/
def ultima (pasos : List Paso) : Option Jugada :=
  (pasos.filterMap Paso.delServidor).getLast?

/-- A request for the record has been answered. -/
def Contestada (e : Suceso) (pasos : List Paso) : Prop :=
  ∃ vista, .evento vista e ∈ pasos

/-- The order in which things have to arrive: a snapshot before any tap, and
before the end of the clock, leaving and going back also the record of the
player. -/
def Espera (uid : String) (pasos : List Paso) : Paso → Prop
  | .evento _ (.clic _ _) => ultima pasos ≠ none
  | .evento _ (.onFinish _) | .evento _ .onStop | .evento _ .onBackPressed =>
      ∃ j, ultima pasos = some j ∧
        Contestada (if j.jugadorUnoID = uid then .userUno else .userDos) pasos
  | _ => True

theorem ultima_append (pasos : List Paso) (a : Paso) :
    ultima (pasos ++ [a]) = a.delServidor.or (ultima pasos) := by
  unfold ultima
  rw [List.filterMap_append]
  cases h : a.delServidor with
  | none => simp [h]
  | some j => simp [h]

theorem contestada_append (e : Suceso) (pasos : List Paso) (a : Paso) :
    Contestada e (pasos ++ [a]) ↔
      Contestada e pasos ∨ ∃ vista, a = .evento vista e := by
  simp only [Contestada, List.mem_append, List.mem_singleton, exists_or]
  exact or_congr Iff.rfl ⟨fun ⟨v, h⟩ => ⟨v, h.symm⟩, fun ⟨v, h⟩ => ⟨v, h.symm⟩⟩

/-- What the screen holds is what it has been sent: the seats of the last
snapshot, and the records that have been answered. -/
structure Sabe (uid : String) (pasos : List Paso) (m : MultPlayer) :
    Prop where
  sana : Sana m
  uid : m.uid = uid
  asiento :
    m.jugada.map Jugada.jugadorUnoID =
      (ultima pasos).map Jugada.jugadorUnoID
  registro : ∀ p, m.registro p ≠ none ↔ Contestada (.user p) pasos

theorem Sabe.paso {uid : String} {pasos : List Paso} {m m' : MultPlayer}
    {a : Paso} (hs : Sabe uid pasos m) (h : avanza m a = some m')
    (hviva : m'.caida = false) : Sabe uid (pasos ++ [a]) m' := by
  have hsana := hs.sana.paso h hviva
  rcases avanza_cases hs.sana h hviva with
    ⟨vista, p, resto, u, nombre, rfl, -, rfl⟩ | ⟨j, rfl, ht⟩ |
    ⟨huser, hserv, hcons, -⟩
  · refine ⟨hsana, (alLeer_uid ..).trans hs.uid, ?_, fun q => ?_⟩
    · rw [ultima_append, alLeer_jugada]
      exact hs.asiento
    · rw [contestada_append, alLeer_registro]
      rcases eq_or_ne q p with rfl | hq
      · rw [Function.update_self]
        exact iff_of_true (Option.some_ne_none u) (Or.inr ⟨vista, rfl⟩)
      · rw [Function.update_of_ne hq, hs.registro, or_iff_left]
        rintro ⟨vista', hv⟩
        exact hq (Suceso.user_injective (Paso.evento.inj hv).2.symm)
  · refine ⟨hsana, ht.uid.trans hs.uid, ?_, fun p => ?_⟩
    · rw [ultima_append, ht.jugada]
      rfl
    · rw [contestada_append, ht.registro, hs.registro]
      simp
  · refine ⟨hsana, hcons.uid.trans hs.uid, ?_, fun p => ?_⟩
    · rw [ultima_append, hserv, hcons.asiento]
      exact hs.asiento
    · rw [contestada_append, hcons.registro, hs.registro, or_iff_left]
      rintro ⟨vista, rfl⟩
      cases p <;> cases huser

/-- The match has arrived when a snapshot has. -/
theorem Sabe.jugada {uid : String} {pasos : List Paso} {m : MultPlayer}
    (hs : Sabe uid pasos m) : m.jugada ≠ none ↔ ultima pasos ≠ none := by
  rw [Ne, Ne, ← Option.map_eq_none_iff (f := Jugada.jugadorUnoID), hs.asiento,
    Option.map_eq_none_iff]

/-- The record of the player has arrived when the request for the seat in which
the last snapshot shows them has been answered. -/
theorem Sabe.lista {uid : String} {pasos : List Paso} {m : MultPlayer}
    (hs : Sabe uid pasos m) :
    m.Lista ↔ ∃ j, ultima pasos = some j ∧
      Contestada (if j.jugadorUnoID = uid then .userUno else .userDos)
        pasos := by
  have hasiento := hs.asiento
  unfold Lista
  cases hj : m.jugada with
  | none =>
      rw [hj, Option.map_none, eq_comm, Option.map_eq_none_iff] at hasiento
      simp [hasiento]
  | some j =>
      rw [hj, Option.map_some, eq_comm, Option.map_eq_some_iff] at hasiento
      obtain ⟨k, hk, hseat⟩ := hasiento
      have hprop : m.propio j ≠ none ↔
          Contestada (if k.jugadorUnoID = uid then .userUno else .userDos)
            pasos := by
        unfold propio
        rw [← hseat, hs.uid]
        split
        · exact hs.registro .uno
        · exact hs.registro .dos
      simp [hk, hprop]

theorem onClick_failed (imagen : Imagen) (aleatorio : Fin 3) (m : MultPlayer) :
    (onClick imagen aleatorio m).failed = false ↔ m.jugada ≠ none := by
  cases hj : m.jugada with
  | none => simp [onClick, hj, falla]
  | some j =>
      obtain ⟨o, ho⟩ := onClick_eq hj imagen aleatorio
      simp [ho]

theorem funcionGameover_failed (m : MultPlayer) :
    (funcionGameover m).failed = false ↔ m.Lista := by
  cases hj : m.jugada with
  | none => simp [funcionGameover, hj, falla, Lista]
  | some j =>
      rw [funcionGameover_eq hj]
      cases hu : m.propio j <;> simp [Lista, hj, hu]

/-- A handler that goes on without trouble after `funcionGameover` needs what
that needs. -/
theorem gameover_andThen_failed {x : MultPlayer} {f : MultPlayer → Turno}
    (hf : ∀ y, y.countDownTimer = x.countDownTimer → (f y).failed = false) :
    ((funcionGameover x).andThen f).failed = false ↔ x.Lista := by
  rw [← funcionGameover_failed]
  cases hj : x.jugada with
  | none => simp [funcionGameover, hj, falla]
  | some j =>
      rw [funcionGameover_eq hj]
      cases hu : x.propio j with
      | none => simp
      | some u =>
          refine iff_of_true (hf _ ?_) rfl
          exact conPropio_countDownTimer _ _ _

/-- A clock to cancel is there whenever the match is. -/
theorem Sana.cancela {m y : MultPlayer} (hs : Sana m) (hj : m.jugada ≠ none)
    (hy : y.countDownTimer = m.countDownTimer) :
    (cancelaCountDownTimer y).failed = false := by
  obtain ⟨t, ht⟩ := Option.ne_none_iff_exists'.mp (hs.reloj hj)
  rw [cancelaCountDownTimer_eq (hy.trans ht)]
  rfl

theorem Sana.onStop_failed {m : MultPlayer} (hs : Sana m) :
    (onStop m).failed = false ↔ m.Lista := by
  by_cases hj : m.jugada = none
  · simp [onStop, funcionGameover, hj, falla, Lista]
  · exact gameover_andThen_failed fun y hy => hs.cancela hj hy

theorem Sana.onBackPressed_failed {m : MultPlayer} (hs : Sana m) :
    (onBackPressed m).failed = false ↔ m.Lista := by
  cases hj : m.jugada with
  | none => simp [onBackPressed, hj, falla, Lista]
  | some j =>
      simp only [onBackPressed, hj]
      refine (gameover_andThen_failed fun y hy => ?_).trans ?_
      · have hok := hs.cancela (by simp [hj]) hy
        simp [Outcome.andThen, hok, sigue]
      · simp [Lista, hj, propio]

/-- Every handler finds what it reads exactly when things have arrived in
time. -/
theorem Sabe.alcanza {uid : String} {pasos : List Paso} {m m' : MultPlayer}
    {a : Paso} (hs : Sabe uid pasos m) (h : avanza m a = some m') :
    Alcanza m a ↔ Espera uid pasos a := by
  cases a with
  | entrega pend snap =>
      cases pend with
      | true => exact Iff.rfl
      | false =>
          cases snap with
          | none => exact Iff.rfl
          | some j =>
              refine iff_of_true ?_ trivial
              simp only [Alcanza]
              split
              next hnom =>
                intro hok
                by_cases hvacio : SinAsiento j
                · rw [(primeraJugada_cae hvacio).1] at hok
                  cases hok
                · rw [primeraJugada_eq hnom hvacio]
                  exact ⟨by simp [sigue], fun _ => hs.sana.alRecibir_reloj j⟩
              next hnom =>
                refine fun _ => ⟨Option.some_ne_none j, fun _ => ?_⟩
                refine hs.sana.reloj fun hno => ?_
                exact hnom (Or.inl (hs.sana.virgen hno).1)
  | evento vista e =>
      cases e using Suceso.casos with
      | clic imagen aleatorio =>
          exact (onClick_failed imagen aleatorio m).trans hs.jugada
      | user p =>
          have hllega : m.jugada ≠ none := fun hno =>
            (avanza_user h).1 ((hs.sana.virgen hno).2.2.1 p)
          cases p with
          | uno => exact iff_of_true hllega trivial
          | dos => exact iff_of_true hllega trivial
      | onFinish t =>
          refine Iff.trans (Iff.trans (and_iff_left_of_imp fun hok => ?_)
            (funcionGameover_failed _)) hs.lista
          obtain ⟨j, hj, -⟩ := (funcionGameover_failed _).mp hok
          rw [funcionGameover_eq hj]
          split
          · exact Option.some_ne_none _
          · rw [conPropio_jugada]
            exact Option.some_ne_none _
      | onStop => exact hs.sana.onStop_failed.trans hs.lista
      | onBackPressed => exact hs.sana.onBackPressed_failed.trans hs.lista
      | onStart => exact Iff.rfl
      | botonDialogo d => exact Iff.rfl
      | onFinishDial d => exact Iff.rfl

/-- In every run of a match screen the handlers find what they read exactly
when no image is tapped before the first snapshot, and nobody leaves, goes back
or runs out of time before the record of the player has arrived as well. -/
theorem alcanza_iff_espera (uid jugadaId : String) {pasos : List Paso}
    {m : MultPlayer}
    (hrun : Runs.run avanza (creada uid jugadaId) pasos = some m) :
    Runs.Along avanza Alcanza (creada uid jugadaId) pasos ↔
      ∀ xs a ys, pasos = xs ++ a :: ys → Espera uid xs a := by
  have hinicio : Sabe uid [] (creada uid jugadaId) :=
    ⟨sana_creada uid jugadaId, rfl, rfl, fun p => by
      cases p <;> simp [creada, registro, Contestada]⟩
  refine Runs.along_iff_past (c := Espera uid)
    (I := fun pasos m => m.caida = false → Sabe uid pasos m) ?_ ?_
    (fun _ => hinicio) hrun
  · intro past s a s' hI h hviva
    exact (hI (caida_of_avanza h)).paso h hviva
  · intro past s a s' hI h
    exact (hI (caida_of_avanza h)).alcanza h

/-- A tap after the first snapshot finds the match. -/
theorem alcanza_tras_instantanea :
    Runs.Along avanza Alcanza (creada "b" "g")
        [.evento .vacia .onStart,
          .entrega false (some { Jugada.nueva "a" "" with jugadorDosID := "b" }),
          .evento .vacia (.clic .IvjUno (sale 0))] ↔
      ∀ xs a ys,
        [.evento .vacia .onStart,
            .entrega false
              (some { Jugada.nueva "a" "" with jugadorDosID := "b" }),
            .evento .vacia (.clic .IvjUno (sale 0))] = xs ++ a :: ys →
          Espera "b" xs a :=
  alcanza_iff_espera "b" "g" rfl

/-- Home before the first snapshot: `onStop` reads a match that is not
there. -/
theorem onStop_sin_jugada :
    Runs.run avanza (creada "b" "g")
        [.evento .vacia .onStart, .evento .vacia .onStop] ≠ none ∧
      ¬Runs.Along avanza Alcanza (creada "b" "g")
        [.evento .vacia .onStart, .evento .vacia .onStop] := by
  refine ⟨by decide, fun h => ?_⟩
  have hstop : (onStop (onStart (creada "b" "g")).state).failed = false :=
    (h.2 _ rfl).1
  exact absurd hstop (by decide)

end Tocate.MultPlayer
