import Mathlib.Logic.Function.Basic
import Tocate.Lib.Countdown
import Tocate.Game.Rounds

/-!
# The time of a solo round

A round should last `TIMEOUT`, however often it is paused.  `onResume` starts a
countdown of what the last tick has left in `millisecondsleft`, so a pause
between two ticks gives back the time since the last of them.
`millisecondsleft` is static, and the countdowns of every other solo game set it
as well.
-/

namespace Tocate.GameActivity

open Cloud Sesiones

def INTERVAL : ℕ := 1000

def TIMEOUT : ℕ := 62000

/-- A game with its countdowns by number. -/
structure Cronometrado where
  mesa : Mesa
  crono : ℕ → Countdown
  millisecondsleft : ℕ

/-- What happens next: an event, time that passes, or a tick of another solo
game. -/
inductive Momento where
  | suceso (e : Suceso)
  | pasa (d : ℕ)
  | onTickAjeno (millisUntilFinished : ℕ)
deriving DecidableEq, Repr

/-- The event, without the time between the events. -/
def Momento.evento : Momento → Option Suceso
  | .suceso e => some e
  | .pasa _ | .onTickAjeno _ => none

/-- What a tick of another solo game sets. -/
def Momento.onTickAjeno? : Momento → Option ℕ
  | .onTickAjeno millisUntilFinished => some millisUntilFinished
  | _ => none

/-- The time that is given to the countdown that an event starts. -/
def arranque (s : Cronometrado) : Suceso → Option ℕ
  | .onResume =>
      some (if s.mesa.2.isPause then s.millisecondsleft else TIMEOUT)
  | .reiniciar _ _ => some TIMEOUT
  | _ => none

/-- A countdown expires when its time has passed. -/
def Vencido (s : Cronometrado) (e : Suceso) : Prop :=
  ∀ t ∈ e.vence?, (s.crono t).left = 0

instance (s : Cronometrado) (e : Suceso) : Decidable (Vencido s e) :=
  inferInstanceAs (Decidable (∀ t ∈ e.vence?, _))

/-- `onTick` of countdown `t`, if it ticks. -/
def onTick (crono : ℕ → Countdown) (millisecondsleft t : ℕ) : ℕ :=
  (crono t).saved INTERVAL millisecondsleft

/-- `start` of countdown `t`, with its first tick. -/
def Cronometrado.start (s : Cronometrado) (t millisInFuture : ℕ) :
    Cronometrado :=
  let crono := Function.update s.crono t { total := millisInFuture }
  { s with
    crono := crono
    millisecondsleft := onTick crono s.millisecondsleft t }

/-- The running countdowns advance by `d` together, and tick. -/
def Cronometrado.advance (s : Cronometrado) (d : ℕ) : Cronometrado :=
  let crono := fun t =>
    if t ∈ s.mesa.2.relojes then (s.crono t).pass d else s.crono t
  { s with
    crono := crono
    millisecondsleft :=
      s.mesa.2.relojes.foldl (onTick crono) s.millisecondsleft }

@[simp] theorem Cronometrado.start_mesa (s : Cronometrado) (t ms : ℕ) :
    (s.start t ms).mesa = s.mesa := rfl

@[simp] theorem Cronometrado.start_crono (s : Cronometrado) (t ms : ℕ) :
    (s.start t ms).crono t = { total := ms } :=
  Function.update_self t _ s.crono

@[simp] theorem Cronometrado.start_millisecondsleft (s : Cronometrado)
    (t ms : ℕ) :
    (s.start t ms).millisecondsleft =
      ({ total := ms } : Countdown).saved INTERVAL s.millisecondsleft := by
  simp only [Cronometrado.start, onTick, Function.update_self]

theorem Cronometrado.advance_crono_of_mem {s : Cronometrado} {t d : ℕ}
    (ht : t ∈ s.mesa.2.relojes) :
    (s.advance d).crono t = (s.crono t).pass d := if_pos ht

theorem Cronometrado.advance_crono_of_not_mem {s : Cronometrado} {t d : ℕ}
    (ht : t ∉ s.mesa.2.relojes) : (s.advance d).crono t = s.crono t :=
  if_neg ht

/-- No tick and no end is passed over by letting time pass. -/
def avanzaReloj (s : Cronometrado) : Momento → Option Cronometrado
  | .suceso e =>
      if Vencido s e then
        (avanza s.mesa e).map fun mesa =>
          match arranque s e with
          | none => { s with mesa := mesa }
          | some ms => { s with mesa := mesa }.start s.mesa.2.creados ms
      else none
  | .pasa d =>
      if s.mesa.2.caida = false ∧ 0 < d ∧
          ∀ t ∈ s.mesa.2.relojes, d ≤ (s.crono t).due INTERVAL then
        some (s.advance d)
      else none
  | .onTickAjeno millisUntilFinished =>
      if s.mesa.2.caida then none
      else some { s with millisecondsleft := millisUntilFinished }

/-- The round that is being played: the countdown that it is at, how long its
countdowns have been running, and whether every pause has come on a tick. -/
structure Cronica where
  reloj : Option ℕ := none
  jugado : ℕ := 0
  puntual : Bool := true
deriving DecidableEq, Repr

def mide (s : Cronometrado) (a : Momento) (g : Cronica) : Cronica :=
  match a with
  | .suceso .onResume =>
      if s.mesa.2.isPause then
        { g with reloj := g.reloj.map fun _ => s.mesa.2.creados }
      else { reloj := some s.mesa.2.creados }
  | .suceso (.reiniciar _ _) => { reloj := some s.mesa.2.creados }
  | .suceso .onPause =>
      { g with
        puntual := g.puntual &&
          g.reloj.all fun t => decide ((s.crono t).Ticks INTERVAL) }
  | .suceso (.onFinish _) => { g with reloj := none }
  | .pasa d =>
      if g.reloj.any fun t => t ∈ s.mesa.2.relojes then
        { g with jugado := g.jugado + d }
      else g
  | _ => g

abbrev avanzaMedido :
    Cronometrado × Cronica → Momento → Option (Cronometrado × Cronica) :=
  Runs.ghost avanzaReloj mide

/-- No countdown has been started yet, and `millisecondsleft` is what an earlier
game has left there. -/
def comienzo (uid : String) (db : BaseDatos) (millisecondsleft : ℕ) :
    Cronometrado × Cronica :=
  ({ mesa := (db, nueva uid)
     crono := fun _ => { total := 0 }
     millisecondsleft := millisecondsleft }, {})

/-- The countdown that goes on with a round gets no more than the last one had
left. -/
def Ajustada (p : Cronometrado × Cronica) (a : Momento) : Prop :=
  a = .suceso .onResume → p.1.mesa.2.isPause = true →
    ∀ t ∈ p.2.reloj, p.1.millisecondsleft ≤ (p.1.crono t).left

/-- One countdown at a time sets `millisecondsleft`. -/
structure Propia (p : Cronometrado × Cronica) (a : Momento) : Prop where
  reinicia : ∀ _d ∈ a.evento.bind Suceso.reinicia?, p.1.mesa.2.relojes = []
  onTickAjeno : ∀ _ms ∈ a.onTickAjeno?, p.2.reloj = none

/-- A round that ends has not been played for more than `TIMEOUT`. -/
def ATiempo (p : Cronometrado × Cronica) (a : Momento) : Prop :=
  ∀ _t ∈ a.evento.bind Suceso.vence?, p.2.reloj ≠ none → p.2.jugado ≤ TIMEOUT

/-- A round that ends has been paused on ticks only. -/
def Puntual (p : Cronometrado × Cronica) (a : Momento) : Prop :=
  ∀ _t ∈ a.evento.bind Suceso.vence?, p.2.reloj ≠ none → p.2.puntual = true

instance (p : Cronometrado × Cronica) (a : Momento) :
    Decidable (Ajustada p a) :=
  inferInstanceAs (Decidable (_ → _ → ∀ t ∈ p.2.reloj, _))

instance (p : Cronometrado × Cronica) (a : Momento) : Decidable (Propia p a) :=
  decidable_of_iff (_ ∧ _)
    ⟨fun h => ⟨h.1, h.2⟩, fun h => ⟨h.reinicia, h.onTickAjeno⟩⟩

instance (p : Cronometrado × Cronica) (a : Momento) : Decidable (Puntual p a) :=
  inferInstanceAs (Decidable (∀ _ ∈ a.evento.bind Suceso.vence?, _ → _))

/-! ## What an event does to the countdowns -/

/-- The countdowns that run, the fields that remember them, and whether the game
is in front. -/
def relojeria (m : GameActivity) : List ℕ × Option ℕ × Option ℕ × Bool :=
  (m.relojes, m.countDownTimer, m.countDownTimeronResume, m.enFrente)

/-- The event leaves the countdowns alone. -/
def Suceso.esAjeno : Suceso → Bool
  | .onResume | .onPause | .onFinish _ | .reiniciar _ _ => false
  | _ => true

theorem arranque_of_esAjeno {e : Suceso} (he : e.esAjeno = true)
    (s : Cronometrado) : arranque s e = none := by
  cases e <;> first | rfl | cases he

theorem mide_of_esAjeno {e : Suceso} (he : e.esAjeno = true)
    (s : Cronometrado) (g : Cronica) : mide s (.suceso e) g = g := by
  cases e <;> first | rfl | cases he

theorem relojeria_onFinish (t : ℕ) (m : GameActivity) :
    (m.onFinish t).state.relojeria =
      { m with relojes := m.relojes.erase t }.relojeria := by
  unfold onFinish
  dsimp only
  split
  · unfold funcionGameover
    split
    · rfl
    · simp only [Outcome.andThen_mk_false]
      unfold dialogo_Gameover
      split <;> rfl
  · rfl

/-- A countdown is started, cancelled or expires; nothing else concerns
them. -/
theorem relojeria_cases {s s' : Mesa} {e : Suceso} (h : avanza s e = some s') :
    (e = .onResume ∧ s.2.enFrente = false ∧
      s'.2.relojeria = s.2.onResume.relojeria) ∨
    (e = .onPause ∧ s'.2.relojeria = s.2.onPause.relojeria) ∨
    (∃ t, e = .onFinish t ∧ t ∈ s.2.relojes ∧
      s'.2.relojeria =
        { s.2 with relojes := s.2.relojes.erase t }.relojeria) ∨
    (∃ d aleatorio, e = .reiniciar d aleatorio ∧ s.2.enFrente = true ∧
      (s'.2.caida = false →
        s'.2.relojeria = s.2.nuevoCountDownTimer.relojeria)) ∨
    (e.esAjeno = true ∧ s'.2.relojeria = s.2.relojeria) := by
  obtain ⟨db, m⟩ := s
  obtain ⟨-, t, ht, rfl⟩ := avanza_eq_some h
  cases e with
  | onCreate =>
      obtain ⟨-, ⟨⟩⟩ := Option.ite_none_left_eq_some.mp ht
      exact Or.inr (Or.inr (Or.inr (Or.inr ⟨rfl, rfl⟩)))
  | prepara aleatorio =>
      obtain ⟨-, ⟨⟩⟩ := Option.ite_none_right_eq_some.mp ht
      exact Or.inr (Or.inr (Or.inr (Or.inr ⟨rfl, rfl⟩)))
  | user =>
      obtain ⟨-, ⟨⟩⟩ := Option.ite_none_right_eq_some.mp ht
      refine Or.inr (Or.inr (Or.inr (Or.inr ⟨rfl, ?_⟩)))
      unfold recibeUser
      split <;> rfl
  | clicFotoPerfil aleatorio =>
      obtain ⟨-, ⟨⟩⟩ := Option.ite_none_right_eq_some.mp ht
      exact Or.inr (Or.inr (Or.inr (Or.inr ⟨rfl, rfl⟩)))
  | clicIvjDos aleatorio =>
      obtain ⟨-, ⟨⟩⟩ := Option.ite_none_right_eq_some.mp ht
      exact Or.inr (Or.inr (Or.inr (Or.inr ⟨rfl, rfl⟩)))
  | onFinish n =>
      obtain ⟨hn, ⟨⟩⟩ := Option.ite_none_right_eq_some.mp ht
      exact Or.inr (Or.inr (Or.inl ⟨n, rfl, hn, relojeria_onFinish n m⟩))
  | onResume =>
      obtain ⟨⟨-, hfrente, -⟩, ⟨⟩⟩ := Option.ite_none_right_eq_some.mp ht
      exact Or.inl ⟨rfl, by simpa using hfrente, rfl⟩
  | onPause =>
      obtain ⟨-, ⟨⟩⟩ := Option.ite_none_right_eq_some.mp ht
      exact Or.inr (Or.inl ⟨rfl, rfl⟩)
  | onStop =>
      obtain ⟨-, ⟨⟩⟩ := Option.ite_none_right_eq_some.mp ht
      exact Or.inr (Or.inr (Or.inr (Or.inr ⟨rfl, rfl⟩)))
  | onBackPressed =>
      obtain ⟨-, ⟨⟩⟩ := Option.ite_none_right_eq_some.mp ht
      exact Or.inr (Or.inr (Or.inr (Or.inr ⟨rfl, rfl⟩)))
  | reiniciar d aleatorio =>
      obtain ⟨⟨hfrente, -⟩, ⟨⟩⟩ := Option.ite_none_right_eq_some.mp ht
      refine Or.inr (Or.inr (Or.inr (Or.inl ⟨d, aleatorio, rfl, hfrente, ?_⟩)))
      dsimp only at hfrente ⊢
      cases hdial : m.countDownTimerDial with
      | none =>
          simp [reiniciar, cancelaCountDownTimerDial, actualizarAciertos, hdial,
            falla, cierra]
      | some n =>
          intro _
          rw [reiniciar_eq hdial]
          simp only [relojeria, nuevoCountDownTimer, hfrente]
  | ranking d =>
      obtain ⟨-, ⟨⟩⟩ := Option.ite_none_right_eq_some.mp ht
      refine Or.inr (Or.inr (Or.inr (Or.inr ⟨rfl, ?_⟩)))
      unfold ranking cancelaCountDownTimerDial
      split <;> rfl
  | onFinishDial d =>
      obtain ⟨-, ⟨⟩⟩ := Option.ite_none_right_eq_some.mp ht
      exact Or.inr (Or.inr (Or.inr (Or.inr ⟨rfl, rfl⟩)))

theorem avanzaReloj_suceso {s s' : Cronometrado} {e : Suceso}
    (h : avanzaReloj s (.suceso e) = some s') :
    Vencido s e ∧ avanza s.mesa e = some s'.mesa ∧
      (arranque s e = none → s'.crono = s.crono ∧
        s'.millisecondsleft = s.millisecondsleft) ∧
      ∀ ms, arranque s e = some ms →
        s'.crono s.mesa.2.creados = { total := ms } ∧
          s'.millisecondsleft =
            ({ total := ms } : Countdown).saved INTERVAL s.millisecondsleft := by
  obtain ⟨hvencido, hmap⟩ := Option.ite_none_right_eq_some.mp h
  obtain ⟨mesa, hmesa, rfl⟩ := Option.map_eq_some_iff.mp hmap
  refine ⟨hvencido, ?_⟩
  cases harranque : arranque s e with
  | none => exact ⟨hmesa, fun _ => ⟨rfl, rfl⟩, nofun⟩
  | some ms =>
      refine ⟨hmesa, nofun, ?_⟩
      rintro ms' ⟨⟩
      exact ⟨Cronometrado.start_crono _ _ _,
        Cronometrado.start_millisecondsleft _ _ _⟩

theorem avanzaReloj_pasa {s s' : Cronometrado} {d : ℕ}
    (h : avanzaReloj s (.pasa d) = some s') :
    (s.mesa.2.caida = false ∧ 0 < d ∧
      ∀ t ∈ s.mesa.2.relojes, d ≤ (s.crono t).due INTERVAL) ∧
      s' = s.advance d := by
  obtain ⟨hcond, hs'⟩ := Option.ite_none_right_eq_some.mp h
  exact ⟨hcond, (Option.some.inj hs').symm⟩

/-! ## Countdowns that get no more than was left -/

/-- The round and what its countdown has left fit into `TIMEOUT`. -/
structure Cabe (p : Cronometrado × Cronica) : Prop where
  jugado : p.2.jugado ≤ TIMEOUT
  queda : ∀ t, p.2.reloj = some t →
    p.2.jugado + (p.1.crono t).left ≤ TIMEOUT

theorem cabe_comienzo (uid : String) (db : BaseDatos) (millisecondsleft : ℕ) :
    Cabe (comienzo uid db millisecondsleft) :=
  ⟨Nat.zero_le _, nofun⟩

theorem Cabe.pasa {s : Cronometrado} {g : Cronica} {d : ℕ} (h : Cabe (s, g))
    (hdue : ∀ t ∈ s.mesa.2.relojes, d ≤ (s.crono t).due INTERVAL) :
    Cabe (s.advance d, mide s (.pasa d) g) := by
  cases hreloj : g.reloj with
  | none =>
      simp only [mide, hreloj, Option.any_none, Bool.false_eq_true, if_false]
      exact ⟨h.jugado, fun t ht => absurd (hreloj.symm.trans ht) nofun⟩
  | some t =>
      have hqueda : g.jugado + (s.crono t).left ≤ TIMEOUT := h.queda t hreloj
      simp only [mide, hreloj, Option.any_some, decide_eq_true_eq]
      split
      next hmem =>
        have hleft : d ≤ (s.crono t).left :=
          Nat.le_trans (hdue t hmem) Countdown.due_le_left
        refine ⟨by dsimp only; omega, fun t' ht' => ?_⟩
        obtain rfl : t = t' := Option.some.inj ht'
        dsimp only
        rw [Cronometrado.advance_crono_of_mem hmem, Countdown.left_pass]
        omega
      next hmem =>
        refine ⟨h.jugado, fun t' ht' => ?_⟩
        obtain rfl : t = t' := Option.some.inj (hreloj.symm.trans ht')
        dsimp only
        rw [Cronometrado.advance_crono_of_not_mem hmem]
        exact hqueda

/-- A round that begins. -/
theorem Cabe.empieza {s : Cronometrado} {n : ℕ}
    (hcrono : s.crono n = { total := TIMEOUT }) :
    Cabe (s, { reloj := some n }) := by
  refine ⟨Nat.zero_le _, ?_⟩
  rintro t ⟨⟩
  dsimp only
  rw [hcrono]
  exact Nat.le_of_eq (Nat.zero_add TIMEOUT)

theorem Cabe.step {p q : Cronometrado × Cronica} {a : Momento} (h : Cabe p)
    (hajustada : Ajustada p a) (hstep : avanzaMedido p a = some q) : Cabe q := by
  obtain ⟨s, g⟩ := p
  obtain ⟨s', g'⟩ := q
  obtain ⟨hs, hg⟩ := Runs.ghost_eq_some hstep
  dsimp only at hs hg
  subst hg
  cases a with
  | pasa d =>
      obtain ⟨⟨-, -, hdue⟩, rfl⟩ := avanzaReloj_pasa hs
      exact h.pasa hdue
  | onTickAjeno ms =>
      obtain ⟨-, ⟨⟩⟩ := Option.ite_none_left_eq_some.mp hs
      exact ⟨h.jugado, h.queda⟩
  | suceso e =>
      obtain ⟨-, hmesa, higual, harranque⟩ := avanzaReloj_suceso hs
      rcases relojeria_cases hmesa with ⟨rfl, -, -⟩ | ⟨rfl, -⟩ |
        ⟨t, rfl, -, -⟩ | ⟨d, aleatorio, rfl, -, -⟩ | ⟨hajeno, -⟩
      · obtain ⟨hcrono, -⟩ := harranque _ rfl
        by_cases hpausa : s.mesa.2.isPause = true
        · simp only [hpausa, if_true] at hcrono
          simp only [mide, hpausa, if_true]
          refine ⟨h.jugado, fun n hn => ?_⟩
          obtain ⟨t, ht, rfl⟩ := Option.map_eq_some_iff.mp hn
          have hqueda : g.jugado + (s.crono t).left ≤ TIMEOUT := h.queda t ht
          have hmenos : s.millisecondsleft ≤ (s.crono t).left :=
            hajustada rfl hpausa t ht
          dsimp only
          rw [hcrono, Countdown.left_start]
          omega
        · simp only [hpausa, Bool.false_eq_true, if_false] at hcrono
          simp only [mide, hpausa, Bool.false_eq_true, if_false]
          exact Cabe.empieza hcrono
      · obtain ⟨hcrono, -⟩ := higual rfl
        refine ⟨h.jugado, fun t ht => ?_⟩
        dsimp only
        rw [hcrono]
        exact h.queda t ht
      · exact ⟨h.jugado, nofun⟩
      · exact Cabe.empieza (harranque _ rfl).1
      · obtain ⟨hcrono, -⟩ := higual (arranque_of_esAjeno hajeno s)
        rw [mide_of_esAjeno hajeno]
        refine ⟨h.jugado, fun t ht => ?_⟩
        dsimp only
        rw [hcrono]
        exact h.queda t ht

/-! ## One countdown at a time -/

/-- The countdown `c` of a round, running or cancelled, with what its last tick
has noted: what has been played and what is left make up `TIMEOUT` or more, and
`TIMEOUT` exactly when the round has been paused on ticks only. -/
structure Medida (c : Countdown) (corre : Prop) (millisecondsleft : ℕ)
    (g : Cronica) : Prop where
  noted : c.Noted INTERVAL millisecondsleft
  alMenos : TIMEOUT ≤ g.jugado + c.left
  puntual : g.puntual = true ↔
    g.jugado + c.left = TIMEOUT ∧ (corre ∨ c.Ticks INTERVAL)

section Medida

variable {c : Countdown} {corre corre' : Prop} {v : ℕ} {g : Cronica}

theorem Medida.empieza (hcorre : corre) (v : ℕ) (reloj : Option ℕ) :
    Medida { total := TIMEOUT } corre
      (({ total := TIMEOUT } : Countdown).saved INTERVAL v)
      { reloj := reloj } := by
  have hsuma : 0 + ({ total := TIMEOUT } : Countdown).left = TIMEOUT :=
    Nat.zero_add TIMEOUT
  exact ⟨Countdown.noted_start (by decide), Nat.le_of_eq hsuma.symm,
    iff_of_true rfl ⟨hsuma, Or.inl hcorre⟩⟩

theorem Medida.pasa (h : Medida c corre v g) (hcorre : corre) {d : ℕ}
    (hd : 0 < d) (hdue : d ≤ c.due INTERVAL) :
    Medida (c.pass d) corre ((c.pass d).saved INTERVAL v)
      { g with jugado := g.jugado + d } := by
  have hleft : d ≤ c.left := Nat.le_trans hdue Countdown.due_le_left
  have hsuma : g.jugado + d + (c.pass d).left = g.jugado + c.left := by
    rw [Countdown.left_pass]
    omega
  refine ⟨h.noted.pass hd hdue, ?_, ?_⟩
  · dsimp only
    rw [hsuma]
    exact h.alMenos
  · dsimp only
    rw [hsuma, h.puntual]
    exact and_congr_right fun _ => iff_of_true (Or.inl hcorre) (Or.inl hcorre)

theorem Medida.pausa (h : Medida c corre v g) (hpara : ¬corre') :
    Medida c corre' v
      { g with puntual := g.puntual && decide (c.Ticks INTERVAL) } := by
  refine ⟨h.noted, h.alMenos, ?_⟩
  dsimp only
  rw [Bool.and_eq_true, decide_eq_true_eq, h.puntual, and_assoc]
  refine and_congr_right fun _ => ⟨fun hpausa => Or.inr hpausa.2, ?_⟩
  rintro (hsigue | htick)
  · exact absurd hsigue hpara
  · exact ⟨Or.inr htick, htick⟩

/-- The next countdown gets what has been noted. -/
theorem Medida.sigue (h : Medida c corre v g) (hpara : ¬corre)
    (hcorre : corre') (reloj : Option ℕ) :
    Medida { total := v } corre'
      (({ total := v } : Countdown).saved INTERVAL v)
      { g with reloj := reloj } := by
  have hle := h.noted.left_le
  have hmenos := h.alMenos
  refine ⟨Countdown.noted_start h.noted.pos, ?_, ?_⟩
  · rw [Countdown.left_start]
    exact Nat.le_trans hmenos (Nat.add_le_add_left hle _)
  · rw [Countdown.left_start, h.puntual, or_iff_right hpara,
      ← h.noted.eq_left_iff]
    constructor
    · rintro ⟨hsuma, hv⟩
      exact ⟨by rw [hv]; exact hsuma, Or.inl hcorre⟩
    · rintro ⟨hsuma, -⟩
      dsimp only at hsuma
      omega

end Medida

/-- One countdown at most, remembered by its field and stopped in the
background; in a round it is the one that the round is at. -/
structure EnSerie (p : Cronometrado × Cronica) : Prop where
  unico : p.1.mesa.2.relojes.length ≤ 1
  campos : ∀ t ∈ p.1.mesa.2.relojes,
    p.1.mesa.2.countDownTimer = some t ∨
      p.1.mesa.2.countDownTimeronResume = some t
  fondo : p.1.mesa.2.enFrente = false → p.1.mesa.2.relojes = []
  suyo : ∀ t, p.2.reloj = some t → ∀ n ∈ p.1.mesa.2.relojes, n = t
  medida : ∀ t, p.2.reloj = some t →
    Medida (p.1.crono t) (t ∈ p.1.mesa.2.relojes) p.1.millisecondsleft p.2

theorem enSerie_comienzo (uid : String) (db : BaseDatos)
    (millisecondsleft : ℕ) : EnSerie (comienzo uid db millisecondsleft) :=
  ⟨Nat.zero_le 1, nofun, fun _ => rfl, nofun, nofun⟩

section Serie

variable {s s' : Cronometrado} {g g' : Cronica}

/-- A step that leaves the countdowns that run alone. -/
theorem EnSerie.of_igual (h : EnSerie (s, g))
    (hrel : s'.mesa.2.relojeria = s.mesa.2.relojeria)
    (hreloj : g'.reloj = g.reloj)
    (hmedida : ∀ t, g.reloj = some t →
      Medida (s'.crono t) (t ∈ s.mesa.2.relojes) s'.millisecondsleft g') :
    EnSerie (s', g') := by
  unfold relojeria at hrel
  simp only [Prod.mk.injEq] at hrel
  obtain ⟨hrelojes, hcount, hresume, hfrente⟩ := hrel
  refine ⟨?_, ?_, ?_, ?_, ?_⟩
  · dsimp only
    rw [hrelojes]
    exact h.unico
  · dsimp only
    rw [hrelojes, hcount, hresume]
    exact h.campos
  · dsimp only
    rw [hfrente, hrelojes]
    exact h.fondo
  · dsimp only
    rw [hreloj, hrelojes]
    exact h.suyo
  · dsimp only
    rw [hreloj, hrelojes]
    exact hmedida

/-- A countdown is started when none runs. -/
theorem EnSerie.of_nuevo {n : ℕ}
    (hrel : s'.mesa.2.relojes = [n]) (hfrente : s'.mesa.2.enFrente = true)
    (hcampo : s'.mesa.2.countDownTimer = some n ∨
      s'.mesa.2.countDownTimeronResume = some n)
    (hreloj : ∀ t, g'.reloj = some t → t = n)
    (hmedida : g'.reloj = some n →
      Medida (s'.crono n) (n ∈ s'.mesa.2.relojes) s'.millisecondsleft g') :
    EnSerie (s', g') := by
  refine ⟨?_, ?_, fun hno => absurd (hfrente.symm.trans hno) nofun, ?_, ?_⟩
  · dsimp only
    rw [hrel]
    exact Nat.le_refl 1
  · dsimp only
    rw [hrel]
    rintro t ht
    rw [List.mem_singleton.mp ht]
    exact hcampo
  · dsimp only
    rw [hrel]
    intro t ht m hm
    rw [List.mem_singleton.mp hm, hreloj t ht]
  · intro t ht
    obtain rfl := hreloj t ht
    exact hmedida ht

/-- A round begins with a countdown of `TIMEOUT`. -/
theorem EnSerie.of_ronda {n v : ℕ}
    (hrel : s'.mesa.2.relojes = [n]) (hfrente : s'.mesa.2.enFrente = true)
    (hcount : s'.mesa.2.countDownTimer = some n)
    (hcrono : s'.crono n = { total := TIMEOUT })
    (hnota : s'.millisecondsleft =
      ({ total := TIMEOUT } : Countdown).saved INTERVAL v) :
    EnSerie (s', { reloj := some n }) := by
  apply EnSerie.of_nuevo hrel hfrente (Or.inl hcount)
  · rintro t ⟨⟩
    rfl
  · intro _
    rw [hcrono, hnota]
    apply Medida.empieza
    rw [hrel]
    exact List.mem_singleton_self n

theorem EnSerie.pasa {d : ℕ} (h : EnSerie (s, g)) (hd : 0 < d)
    (hdue : ∀ t ∈ s.mesa.2.relojes, d ≤ (s.crono t).due INTERVAL) :
    EnSerie (s.advance d, mide s (.pasa d) g) := by
  have hreloj : (mide s (.pasa d) g).reloj = g.reloj := by
    unfold mide
    dsimp only
    split <;> rfl
  refine h.of_igual rfl hreloj fun t ht => ?_
  have hmedida : Medida (s.crono t) (t ∈ s.mesa.2.relojes) s.millisecondsleft g :=
    h.medida t ht
  simp only [mide, ht, Option.any_some, decide_eq_true_eq]
  split
  next hmem =>
    -- the countdown of the round is the only one that runs
    have hsolo : s.mesa.2.relojes = [t] := by
      obtain ⟨n, hn⟩ := List.length_eq_one_iff.mp
        (Nat.le_antisymm h.unico (List.length_pos_of_mem hmem))
      rw [hn] at hmem ⊢
      rw [List.mem_singleton.mp hmem]
    have hnota : (s.advance d).millisecondsleft =
        ((s.crono t).pass d).saved INTERVAL s.millisecondsleft := by
      simp only [Cronometrado.advance, hsolo, List.foldl_cons, List.foldl_nil,
        onTick, List.mem_singleton, if_true]
    rw [hnota, Cronometrado.advance_crono_of_mem hmem, ← ht]
    exact hmedida.pasa hmem hd (hdue t hmem)
  next hmem =>
    have hnada : s.mesa.2.relojes = [] := by
      by_contra hne
      obtain ⟨n, hn⟩ := List.exists_mem_of_ne_nil _ hne
      exact hmem (h.suyo t ht n hn ▸ hn)
    have hnota : (s.advance d).millisecondsleft = s.millisecondsleft := by
      simp only [Cronometrado.advance, hnada, List.foldl_nil]
    rw [hnota, Cronometrado.advance_crono_of_not_mem hmem]
    exact hmedida

/-- `onResume`: the countdown that is started is the only one, and in a round
that goes on it gets what the last one has noted. -/
theorem EnSerie.onResume (h : EnSerie (s, g)) (hfondo : s.mesa.2.enFrente = false)
    (hrel : s'.mesa.2.relojeria = s.mesa.2.onResume.relojeria)
    (harranque : ∀ ms, arranque s .onResume = some ms →
      s'.crono s.mesa.2.creados = { total := ms } ∧
        s'.millisecondsleft =
          ({ total := ms } : Countdown).saved INTERVAL s.millisecondsleft) :
    EnSerie (s', mide s (.suceso .onResume) g) := by
  have hnada : s.mesa.2.relojes = [] := h.fondo hfondo
  obtain ⟨hcrono, hnota⟩ := harranque _ rfl
  rw [onResume_eq, hnada] at hrel
  by_cases hpausa : s.mesa.2.isPause = true
  · simp only [hpausa, if_true] at hcrono hnota hrel
    simp only [relojeria, Prod.mk.injEq, List.nil_append] at hrel
    obtain ⟨hrelojes, -, hresume, hfrente⟩ := hrel
    simp only [mide, hpausa, if_true]
    apply EnSerie.of_nuevo hrelojes hfrente (Or.inr hresume)
    · intro n hn
      obtain ⟨-, -, rfl⟩ := Option.map_eq_some_iff.mp hn
      rfl
    · intro hn
      obtain ⟨t, ht, -⟩ := Option.map_eq_some_iff.mp hn
      have hmedida : Medida (s.crono t) (t ∈ s.mesa.2.relojes)
          s.millisecondsleft g := h.medida t ht
      rw [hcrono, hnota]
      apply hmedida.sigue
      · rw [hnada]
        exact List.not_mem_nil
      · rw [hrelojes]
        exact List.mem_singleton_self _
  · simp only [hpausa, Bool.false_eq_true, if_false] at hcrono hnota hrel
    simp only [relojeria, Prod.mk.injEq, List.nil_append] at hrel
    obtain ⟨hrelojes, hcount, -, hfrente⟩ := hrel
    simp only [mide, hpausa, Bool.false_eq_true, if_false]
    exact EnSerie.of_ronda hrelojes hfrente hcount hcrono hnota

/-- `onPause`: no countdown is left running. -/
theorem EnSerie.onPause (h : EnSerie (s, g))
    (hrel : s'.mesa.2.relojeria = s.mesa.2.onPause.relojeria)
    (hcrono : s'.crono = s.crono)
    (hnota : s'.millisecondsleft = s.millisecondsleft) :
    EnSerie (s', mide s (.suceso .onPause) g) := by
  have hunico := h.unico
  have hcampos := h.campos
  dsimp only at hunico hcampos
  rw [onPause_eq, quita_quita hunico hcampos] at hrel
  simp only [relojeria, Prod.mk.injEq] at hrel
  obtain ⟨hnada, -⟩ := hrel
  have hpara : ∀ t, t ∉ s'.mesa.2.relojes := by
    intro t
    rw [hnada]
    exact List.not_mem_nil
  refine ⟨?_, fun t ht => absurd ht (hpara t), fun _ => hnada,
    fun _ _ n hn => absurd hn (hpara n), fun t ht => ?_⟩
  · dsimp only
    rw [hnada]
    exact Nat.zero_le 1
  · have hreloj : g.reloj = some t := ht
    have hmedida : Medida (s.crono t) (t ∈ s.mesa.2.relojes)
        s.millisecondsleft g := h.medida t hreloj
    simp only [mide, hreloj, Option.all_some]
    rw [hcrono, hnota, ← hreloj]
    exact hmedida.pausa (hpara t)

/-- `onFinish`: the round is over. -/
theorem EnSerie.onFinish {t : ℕ} (h : EnSerie (s, g))
    (ht : t ∈ s.mesa.2.relojes)
    (hrel : s'.mesa.2.relojeria =
      { s.mesa.2 with relojes := s.mesa.2.relojes.erase t }.relojeria) :
    EnSerie (s', mide s (.suceso (.onFinish t)) g) := by
  have hunico := h.unico
  have hcampos := h.campos
  dsimp only at hunico hcampos
  simp only [relojeria, Prod.mk.injEq] at hrel
  obtain ⟨hrelojes, hcount, hresume, hfrente⟩ := hrel
  refine ⟨?_, ?_, fun hno => ?_, nofun, nofun⟩
  · dsimp only
    rw [hrelojes]
    exact Nat.le_trans (List.length_erase_le) hunico
  · dsimp only
    rw [hrelojes, hcount, hresume]
    exact fun n hn => hcampos n (List.mem_of_mem_erase hn)
  · have hnada : s.mesa.2.relojes = [] := h.fondo (hfrente ▸ hno)
    rw [hnada] at ht
    cases ht

theorem EnSerie.suceso {e : Suceso} (h : EnSerie (s, g))
    (hpropia : Propia (s, g) (.suceso e))
    (hs : avanzaReloj s (.suceso e) = some s')
    (hviva : s'.mesa.2.caida = false) :
    EnSerie (s', mide s (.suceso e) g) := by
  obtain ⟨-, hmesa, higual, harranque⟩ := avanzaReloj_suceso hs
  rcases relojeria_cases hmesa with ⟨rfl, hfondo, hrel⟩ | ⟨rfl, hrel⟩ |
    ⟨t, rfl, ht, hrel⟩ | ⟨d, aleatorio, rfl, hfrente, hrel⟩ | ⟨hajeno, hrel⟩
  · exact h.onResume hfondo hrel harranque
  · obtain ⟨hcrono, hnota⟩ := higual rfl
    exact h.onPause hrel hcrono hnota
  · exact h.onFinish ht hrel
  · have hnada : s.mesa.2.relojes = [] := hpropia.reinicia d rfl
    obtain ⟨hcrono, hnota⟩ := harranque _ rfl
    have hrel := hrel hviva
    simp only [relojeria, nuevoCountDownTimer, hnada, List.nil_append,
      Prod.mk.injEq] at hrel
    obtain ⟨hrelojes, hcount, -, hsigue⟩ := hrel
    exact EnSerie.of_ronda hrelojes (hsigue.trans hfrente) hcount hcrono hnota
  · obtain ⟨hcrono, hnota⟩ := higual (arranque_of_esAjeno hajeno s)
    rw [mide_of_esAjeno hajeno]
    apply h.of_igual hrel rfl
    intro t ht
    rw [hcrono, hnota]
    exact h.medida t ht

theorem evento_eq_some {a : Momento} {e : Suceso} (h : a.evento = some e) :
    a = .suceso e := by
  cases a with
  | suceso e' =>
      cases h
      rfl
  | pasa d => cases h
  | onTickAjeno ms => cases h

theorem vence?_eq_some {e : Suceso} {t : ℕ} (h : e.vence? = some t) :
    e = .onFinish t := by
  unfold Suceso.vence? at h
  split at h
  · cases h
    rfl
  · cases h

/-- When a round ends, it has been played for `TIMEOUT`, or for more if a pause
has come between two ticks. -/
theorem EnSerie.aTiempo_iff {a : Momento} (h : EnSerie (s, g))
    (hs : avanzaReloj s a = some s') : ATiempo (s, g) a ↔ Puntual (s, g) a := by
  refine forall_congr' fun n => forall_congr' fun hvence =>
    forall_congr' fun hreloj => ?_
  obtain ⟨e, he, hn⟩ := Option.bind_eq_some_iff.mp hvence
  obtain rfl := evento_eq_some he
  obtain ⟨hvencido, hmesa, -⟩ := avanzaReloj_suceso hs
  obtain rfl := vence?_eq_some hn
  rcases relojeria_cases hmesa with ⟨⟨⟩, -⟩ | ⟨⟨⟩, -⟩ | ⟨t, ⟨⟩, hn, -⟩ |
    ⟨d, aleatorio, ⟨⟩, -⟩ | ⟨⟨⟩, -⟩
  obtain ⟨t, ht⟩ := Option.ne_none_iff_exists'.mp hreloj
  obtain rfl : n = t := h.suyo t ht n hn
  have hmedida : Medida (s.crono n) (n ∈ s.mesa.2.relojes)
      s.millisecondsleft g := h.medida n ht
  have hmenos := hmedida.alMenos
  have hqueda : (s.crono n).left = 0 := hvencido n rfl
  rw [hqueda, Nat.add_zero] at hmenos
  rw [show (s, g).2.puntual = g.puntual from rfl, hmedida.puntual, hqueda,
    Nat.add_zero]
  exact ⟨fun hle => ⟨Nat.le_antisymm hle hmenos, Or.inl hn⟩,
    fun hsuma => Nat.le_of_eq hsuma.1⟩

theorem EnSerie.step {p q : Cronometrado × Cronica} {a : Momento}
    (h : EnSerie p) (hpropia : Propia p a)
    (hstep : avanzaMedido p a = some q) (hviva : q.1.mesa.2.caida = false) :
    EnSerie q := by
  obtain ⟨s, g⟩ := p
  obtain ⟨s', g'⟩ := q
  obtain ⟨hs, hg⟩ := Runs.ghost_eq_some hstep
  dsimp only at hs hg
  subst hg
  cases a with
  | suceso e => exact h.suceso hpropia hs hviva
  | pasa d =>
      obtain ⟨⟨-, hd, hdue⟩, rfl⟩ := avanzaReloj_pasa hs
      exact h.pasa hd hdue
  | onTickAjeno ms =>
      obtain ⟨-, ⟨⟩⟩ := Option.ite_none_left_eq_some.mp hs
      have hreloj : g.reloj = none := hpropia.onTickAjeno ms rfl
      exact ⟨h.unico, h.campos, h.fondo, h.suyo,
        fun t ht => absurd (hreloj.symm.trans ht) nofun⟩

end Serie

/-! ## Runs -/

theorem viva_of_avanzaReloj {s s' : Cronometrado} {a : Momento}
    (h : avanzaReloj s a = some s') : s.mesa.2.caida = false := by
  cases a with
  | suceso e => exact (avanza_eq_some (avanzaReloj_suceso h).2.1).1
  | pasa d => exact (avanzaReloj_pasa h).1.1
  | onTickAjeno ms =>
      obtain ⟨hcaida, -⟩ := Option.ite_none_left_eq_some.mp h
      simpa using hcaida

/-- Without its time, a run with time is a run of the game. -/
theorem run_avanza_of_run {s t : Cronometrado} {as : List Momento}
    (h : Runs.run avanzaReloj s as = some t) :
    Runs.run avanza s.mesa (as.filterMap Momento.evento) = some t.mesa := by
  induction as generalizing s with
  | nil =>
      cases h
      rfl
  | cons a as ih =>
      obtain ⟨s', hstep, hrest⟩ := Runs.run_cons_eq_some h
      have hnext := ih hrest
      cases a with
      | suceso e =>
          have hmesa := (avanzaReloj_suceso hstep).2.1
          simp only [List.filterMap_cons, Momento.evento, Runs.run_cons, hmesa]
          exact hnext
      | pasa d =>
          obtain ⟨-, rfl⟩ := avanzaReloj_pasa hstep
          exact hnext
      | onTickAjeno ms =>
          obtain ⟨-, ⟨⟩⟩ := Option.ite_none_left_eq_some.mp hstep
          exact hnext

/-- The time of a solo round, in every run of the game with every way of pausing
and resuming.  No round is ever played for more than `TIMEOUT` if each countdown
that goes on with a round gets no more than the last one had left.  Where one
countdown at a time sets `millisecondsleft`, no round has been played for more
than `TIMEOUT` when it ends exactly when each that ends has been paused on ticks
only. -/
theorem tiempo_exacto (uid : String) (db : BaseDatos) (millisecondsleft : ℕ)
    {as : List Momento} {q : Cronometrado × Cronica}
    (hrun : Runs.run avanzaMedido (comienzo uid db millisecondsleft) as =
      some q) :
    (Runs.Along avanzaMedido Ajustada (comienzo uid db millisecondsleft) as →
      ∀ xs ys t, as = xs ++ ys →
        Runs.run avanzaMedido (comienzo uid db millisecondsleft) xs = some t →
          t.2.jugado ≤ TIMEOUT) ∧
    (Runs.Along avanzaMedido Propia (comienzo uid db millisecondsleft) as →
      (Runs.Along avanzaMedido ATiempo (comienzo uid db millisecondsleft) as ↔
        Runs.Along avanzaMedido Puntual (comienzo uid db millisecondsleft)
          as)) := by
  refine ⟨?_, fun hpropia => ?_⟩
  · rintro hajustada xs ys t rfl hxs
    exact (Runs.invariant (fun p a p' hp ha hstep => hp.step ha hstep)
      (cabe_comienzo uid db millisecondsleft) hajustada.take hxs).jugado
  · refine Runs.Along.iff_of_invariant
      (I := fun p => p.1.mesa.2.caida = false → EnSerie p) ?_ ?_
      (fun _ => enSerie_comienzo uid db millisecondsleft) hpropia hrun
    · intro p a p' hp ha _ hstep hviva
      exact (hp (viva_of_avanzaReloj (Runs.ghost_eq_some hstep).1)).step ha
        hstep hviva
    · intro p a p' hp _ hstep
      have hs := (Runs.ghost_eq_some hstep).1
      exact (hp (viva_of_avanzaReloj hs)).aTiempo_iff hs

/-- Ana leaves a round after `d`, comes back, and plays it to its end, which is
`n` seconds later. -/
def rondaPausada (d n : ℕ) : List Momento :=
  [.suceso .onCreate, .suceso (.prepara (sale 0)), .suceso .user, .suceso .onResume,
    .pasa d, .suceso .onPause, .pasa 5000, .suceso .onResume] ++
  (List.replicate n (.pasa 1000) ++ [.suceso (.onFinish 1)])

theorem tiempo_exacto_enPunto :
    ∃ q, Runs.run avanzaMedido (comienzo "a" conAna 0) (rondaPausada 1000 61) =
        some q ∧
      q.2.jugado ≤ TIMEOUT ∧
      Runs.Along avanzaMedido ATiempo (comienzo "a" conAna 0)
        (rondaPausada 1000 61) := by
  obtain ⟨q, hrun⟩ := Option.isSome_iff_exists.mp
    (show (Runs.run avanzaMedido (comienzo "a" conAna 0)
      (rondaPausada 1000 61)).isSome = true by decide +kernel)
  obtain ⟨hcabe, hexacto⟩ := tiempo_exacto "a" conAna 0 hrun
  exact ⟨q, hrun,
    hcabe (by decide +kernel) _ [] q (List.append_nil _).symm hrun,
    (hexacto (by decide +kernel)).mpr (by decide +kernel)⟩

/-- The pause comes half a second after a tick, and the round, which is credited
at its end, has been half a second longer. -/
theorem tiempo_de_mas :
    ∃ q, Runs.run avanzaMedido (comienzo "a" conAna 0) (rondaPausada 500 62) =
        some q ∧
      q.2.jugado = TIMEOUT + 500 ∧ guardado q.1.mesa.1 "a" = (10, 5) := by
  have hfin : (Runs.run avanzaMedido (comienzo "a" conAna 0)
      (rondaPausada 500 62)).map
        (fun q => (q.2.jugado, guardado q.1.mesa.1 "a")) =
      some (TIMEOUT + 500, 10, 5) := by decide +kernel
  obtain ⟨q, hrun, hq⟩ := Option.map_eq_some_iff.mp hfin
  obtain ⟨hjugado, hguardado⟩ := Prod.mk.inj hq
  exact ⟨q, hrun, hjugado, hguardado⟩

end Tocate.GameActivity
