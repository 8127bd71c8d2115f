import Mathlib.Algebra.Ring.Int.Defs
import Tocate.Users.Sessions

/-!
# The rounds of a solo game

A round begins with the first `onResume` or with the button `reinicio`, and it
ends when a countdown of the round expires.  Each round should be credited once,
when it ends, and one countdown should run at a time.  `funcionGameover` says
that the round is over by the same flag that says that the game is paused, so
`onPause` and `onResume` under the dialog start a countdown again for a round
that is over.  Nobody else writes the record while the game is played.
-/

namespace Tocate.GameActivity

open Cloud Sesiones

/-- The database and the game. -/
abbrev Mesa := BaseDatos × GameActivity

def avanza (s : Mesa) (e : Suceso) : Option Mesa :=
  (react s.1 s.2 e).map fun r => (escribe s.1 r.2, r.1)

/-- The rounds of a run: how many have begun, whether one is being played, and
what the player had in each that is over when it ended. -/
structure Rondas where
  empezadas : ℕ := 0
  abierta : Bool := false
  puntos : List ℤ := []
deriving DecidableEq, Repr

def Rondas.empieza (r : Rondas) : Rondas :=
  { r with empezadas := r.empezadas + 1, abierta := true }

def Rondas.acaba (r : Rondas) (puntosUid : ℤ) : Rondas :=
  if r.abierta then
    { r with abierta := false, puntos := r.puntos ++ [puntosUid] }
  else r

def anota (s : Mesa) (e : Suceso) (r : Rondas) : Rondas :=
  match e with
  | .onResume => if s.2.isPause then r else r.empieza
  | .reiniciar _ _ => r.empieza
  | .onFinish _ => r.acaba s.2.puntosUid
  | _ => r

def avanzaAnotado : Mesa × Rondas → Suceso → Option (Mesa × Rondas) :=
  Runs.ghost avanza anota

def inicio (uid : String) (db : BaseDatos) : Mesa × Rondas :=
  ((db, nueva uid), {})

/-- One countdown at most, and the record has grown by the points of the rounds
that are over, each of them once. -/
structure Exacta (uid : String) (v : ℤ × ℤ) (db : BaseDatos)
    (m : GameActivity) (r : Rondas) : Prop where
  relojes : m.relojes.length ≤ 1
  empezadas : r.puntos.length + (if r.abierta then 1 else 0) = r.empezadas
  guardado : guardado db uid = (v.1 + r.puntos.sum, v.2 + r.puntos.length)

/-- The countdown that expires. -/
def Suceso.vence? : Suceso → Option ℕ
  | .onFinish t => some t
  | _ => none

/-- The dialog from which the game is restarted. -/
def Suceso.reinicia? : Suceso → Option ℕ
  | .reiniciar d _ => some d
  | _ => none

/-- The record has been loaded by the time a countdown expires. -/
def Cargada (p : Mesa × Rondas) (e : Suceso) : Prop :=
  ∀ _t ∈ e.vence?, p.1.2.userjUno ≠ none

/-- A countdown expires in a round only, and the game is restarted with no
countdown running. -/
structure EnOrden (m : GameActivity) (r : Rondas) (e : Suceso) : Prop where
  vence : ∀ _t ∈ e.vence?, r.abierta = true
  reinicia : ∀ _d ∈ e.reinicia?, m.relojes = []

instance (p : Mesa × Rondas) (e : Suceso) : Decidable (Cargada p e) :=
  inferInstanceAs (Decidable (∀ _ ∈ e.vence?, _))

instance (m : GameActivity) (r : Rondas) (e : Suceso) :
    Decidable (EnOrden m r e) :=
  decidable_of_iff (_ ∧ _)
    ⟨fun h => ⟨h.1, h.2⟩, fun h => ⟨h.vence, h.reinicia⟩⟩

/-- Nothing is asked of an event that neither is an expiry nor restarts the
game. -/
theorem EnOrden.of_none {m : GameActivity} {r : Rondas} {e : Suceso}
    (hvence : e.vence? = none) (hreinicia : e.reinicia? = none) :
    EnOrden m r e := by
  constructor
  · rw [hvence]
    rintro t ⟨⟩
  · rw [hreinicia]
    rintro d ⟨⟩

theorem enOrden_onFinish_iff {m : GameActivity} {r : Rondas} {n : ℕ} :
    EnOrden m r (.onFinish n) ↔ r.abierta = true := by
  refine ⟨fun hok => hok.vence n rfl, fun hok => ⟨fun _ _ => hok, ?_⟩⟩
  rintro d ⟨⟩

theorem enOrden_reiniciar_iff {m : GameActivity} {r : Rondas} {d : ℕ}
    {aleatorio : Fin 2} :
    EnOrden m r (.reiniciar d aleatorio) ↔ m.relojes = [] := by
  refine ⟨fun hok => hok.reinicia d rfl, fun hok => ⟨?_, fun _ _ => hok⟩⟩
  rintro n ⟨⟩

/-! ## The countdowns -/

/-- What is left of the running countdowns when a field is cancelled. -/
def quita (t : Option ℕ) (relojes : List ℕ) : List ℕ :=
  t.elim relojes relojes.erase

theorem cancela_eq (t : Option ℕ) (m : GameActivity) :
    cancela t m = { m with relojes := quita t m.relojes } := by
  cases t <;> rfl

theorem onPause_eq (m : GameActivity) :
    onPause m =
      { m with
        enFrente := false
        isPause := m.isPause || m.countDownTimer.isSome
        relojes := quita m.countDownTimeronResume
          (quita m.countDownTimer m.relojes) } := by
  cases hreloj : m.countDownTimer with
  | none => simp [onPause, cancela_eq, hreloj, quita]
  | some t => simp [onPause, cancela_eq, hreloj, quita]

theorem onResume_eq (m : GameActivity) :
    onResume m =
      if m.isPause then
        { m with
          enFrente := true
          countDownTimeronResume := some m.creados
          relojes := m.relojes ++ [m.creados]
          creados := m.creados + 1 }
      else
        { m with
          enFrente := true
          countDownTimer := some m.creados
          relojes := m.relojes ++ [m.creados]
          creados := m.creados + 1 } := rfl

/-- A single countdown that one of the two fields remembers is stopped by
cancelling both. -/
theorem quita_quita {x y : Option ℕ} {relojes : List ℕ}
    (hlen : relojes.length ≤ 1) (h : ∀ t ∈ relojes, x = some t ∨ y = some t) :
    quita y (quita x relojes) = [] := by
  match relojes, hlen, h with
  | [], _, _ => cases x <;> cases y <;> rfl
  | [t], _, h =>
      rcases h t List.mem_cons_self with rfl | rfl
      · cases y <;> simp [quita]
      · cases x with
        | none => simp [quita]
        | some r =>
            by_cases hr : t = r
            · simp [quita, hr]
            · simp [quita, hr]

/-! ## The invariant -/

/-- A game in order: the loaded record is the stored one, the fields remember
the countdowns that run, none runs in the background, and in a round that is
being played in front one does. -/
structure Orden (uid : String) (db : BaseDatos) (m : GameActivity)
    (r : Rondas) : Prop where
  propio : m.uid = uid
  copia : ∀ l, m.userjUno = some l → l.user.cuenta = guardado db uid
  parche : m.isParche = true
  dial : m.abiertos ≠ [] → m.countDownTimerDial ≠ none
  campos : ∀ t ∈ m.relojes,
    m.countDownTimer = some t ∨ m.countDownTimeronResume = some t
  alFrente : m.enFrente = true → m.countDownTimer ≠ none
  sinReloj : m.countDownTimer = none → m.isPause = false
  fondo : m.enFrente = false →
    m.relojes = [] ∧ (m.isPause = false → r.abierta = false)
  viva : r.abierta = true → m.enFrente = true → m.relojes ≠ []

theorem orden_inicio (uid : String) (db : BaseDatos) :
    Orden uid db (nueva uid) {} :=
  ⟨rfl, nofun, rfl, fun h => absurd rfl h, nofun, nofun, fun _ => rfl,
    fun _ => ⟨rfl, fun _ => rfl⟩, nofun⟩

theorem exacta_inicio (uid : String) (db : BaseDatos) :
    Exacta uid (guardado db uid) db (nueva uid) {} :=
  ⟨Nat.zero_le 1, rfl, by simp⟩

section Step

variable {uid : String} {v : ℤ × ℤ} {db : BaseDatos} {m m' : GameActivity}
  {r r' : Rondas}

/-- A new round can begin when the last one is over. -/
theorem empieza_empezadas
    (h : r.puntos.length + (if r.abierta then 1 else 0) = r.empezadas)
    (hcerrada : r.abierta = false) :
    r.empieza.puntos.length + (if r.empieza.abierta then 1 else 0) =
      r.empieza.empezadas := by
  rw [hcerrada] at h
  simp only [Rondas.empieza, if_true, ← h, Bool.false_eq_true, if_false,
    Nat.add_zero]

/-- The countdown that has just been started is the only one. -/
theorem campos_nuevo {relojes : List ℕ} {n t : ℕ} (hrel : relojes = [])
    (ht : t ∈ relojes ++ [n]) : some n = some t := by
  rw [hrel, List.nil_append, List.mem_singleton] at ht
  rw [ht]

theorem Orden.onResume (h : Orden uid db m r) (hx : Exacta uid v db m r)
    (hfondo : m.enFrente = false) :
    Exacta uid v db m.onResume (anota (db, m) .onResume r) ∧
      Orden uid db m.onResume (anota (db, m) .onResume r) := by
  obtain ⟨hrel, habierta⟩ := h.fondo hfondo
  rw [onResume_eq]
  by_cases hpausa : m.isPause = true
  · -- the round goes on, or a round that is over gets a countdown
    simp only [anota, hpausa, if_true]
    refine ⟨⟨by simp [hrel], hx.empezadas, hx.guardado⟩, h.propio, h.copia,
      h.parche, h.dial, ?_, ?_, ?_, nofun, ?_⟩
    · exact fun t ht => Or.inr (campos_nuevo hrel ht)
    · intro _ hno
      have hsin := h.sinReloj hno
      rw [hpausa] at hsin
      cases hsin
    · intro hno
      have hsin := h.sinReloj hno
      rw [hpausa] at hsin
      cases hsin
    · intro _ _
      exact List.append_ne_nil_of_right_ne_nil _ (List.cons_ne_nil _ _)
  · have hno : m.isPause = false := by simpa using hpausa
    simp only [anota, hno, Bool.false_eq_true, if_false]
    refine ⟨⟨by simp [hrel], empieza_empezadas hx.empezadas (habierta hno),
      hx.guardado⟩, h.propio, h.copia, h.parche, h.dial, ?_,
      fun _ => Option.some_ne_none _, fun _ => rfl, nofun, ?_⟩
    · exact fun t ht => Or.inl (campos_nuevo hrel ht)
    · intro _ _
      exact List.append_ne_nil_of_right_ne_nil _ (List.cons_ne_nil _ _)

theorem Orden.onPause (h : Orden uid db m r) (hx : Exacta uid v db m r)
    (hfrente : m.enFrente = true) :
    Exacta uid v db m.onPause r ∧ Orden uid db m.onPause r := by
  have hreloj := h.alFrente hfrente
  rw [onPause_eq, quita_quita hx.relojes h.campos,
    Option.isSome_iff_ne_none.mpr hreloj, Bool.or_true]
  exact ⟨⟨Nat.zero_le 1, hx.empezadas, hx.guardado⟩, h.propio, h.copia,
    h.parche, h.dial, nofun, nofun, fun hno => absurd hno hreloj,
    fun _ => ⟨rfl, nofun⟩, nofun⟩

/-- The game after the button `reinicio` of dialog `d`. -/
theorem reiniciar_eq {d t : ℕ} {aleatorio : Fin 2}
    (ht : m.countDownTimerDial = some t) :
    cierra (m.reiniciar d aleatorio) =
      ({ m with
          puntosUid := 0
          n := aleatorio
          abiertos := m.abiertos.erase d
          relojesDial := m.relojesDial.erase t
          isPause := false
          isParche := true
          enFrente := true
          countDownTimer := some m.creados
          relojes := m.relojes ++ [m.creados]
          creados := m.creados + 1 }, []) := by
  simp [reiniciar, cancelaCountDownTimerDial, ht, sigue, actualizarAciertos,
    onResume, nuevoCountDownTimer, cierra]

theorem ranking_eq {d t : ℕ} (ht : m.countDownTimerDial = some t) :
    cierra (m.ranking d) =
      ({ m with
          abiertos := m.abiertos.erase d
          relojesDial := m.relojesDial.erase t
          terminada := true }, []) := by
  simp [ranking, cancelaCountDownTimerDial, ht, sigue, finish, cierra]

/-- The button `reinicio`: a second countdown is one too many. -/
theorem Orden.reiniciar {d : ℕ} {aleatorio : Fin 2} (h : Orden uid db m r)
    (hx : Exacta uid v db m r) (hfrente : m.enFrente = true)
    (hd : d ∈ m.abiertos)
    {ws : List Escritura} (hm' : cierra (m.reiniciar d aleatorio) = (m', ws)) :
    ws = [] ∧ (Exacta uid v db m' r.empieza ↔ m.relojes = []) ∧
      (m.relojes = [] → Orden uid db m' r.empieza) := by
  have hdial := h.dial (List.ne_nil_of_mem hd)
  obtain ⟨t, ht⟩ := Option.ne_none_iff_exists'.mp hdial
  rw [reiniciar_eq ht] at hm'
  obtain ⟨rfl, rfl⟩ := Prod.mk.inj hm'
  refine ⟨rfl, ⟨fun hexacta => ?_, fun hrel => ?_⟩, fun hrel => ?_⟩
  · have hlen := hexacta.relojes
    rw [List.length_append, List.length_singleton] at hlen
    exact List.eq_nil_of_length_eq_zero (by omega)
  · -- with no countdown in front the last round is over
    have hcerrada : r.abierta = false := by
      by_contra hno
      exact h.viva (by simpa using hno) hfrente hrel
    exact ⟨by simp [hrel], empieza_empezadas hx.empezadas hcerrada, hx.guardado⟩
  · refine ⟨h.propio, h.copia, rfl, fun _ => hdial, ?_,
      fun _ => Option.some_ne_none _, fun _ => rfl, nofun, ?_⟩
    · exact fun s hs => Or.inl (campos_nuevo hrel hs)
    · intro _ _
      exact List.append_ne_nil_of_right_ne_nil _ (List.cons_ne_nil _ _)

/-- The game after a countdown has expired with the record `l` loaded. -/
theorem onFinish_eq {t : ℕ} {l : Leido} (hl : m.userjUno = some l)
    (hparche : m.isParche = true) (hfrente : m.enFrente = true) :
    cierra (m.onFinish t) =
      ({ m with
          relojes := m.relojes.erase t
          isPause := true
          userjUno := some (acreditada l m.puntosUid)
          abiertos := m.abiertos ++ [m.creados]
          countDownTimerDial := some m.creados
          relojesDial := m.relojesDial ++ [m.creados]
          creados := m.creados + 1 },
        [.setUser m.uid (acreditada l m.puntosUid)]) := by
  simp [onFinish, hparche, funcionGameover, hl, dialogo_Gameover, hfrente,
    sigue, cierra]

/-- A countdown expires: the record is credited, in a round or not. -/
theorem Orden.onFinish {t : ℕ} (h : Orden uid db m r)
    (hx : Exacta uid v db m r) (ht : t ∈ m.relojes)
    (hcargada : m.userjUno ≠ none) {ws : List Escritura}
    (hm' : cierra (m.onFinish t) = (m', ws)) :
    (Exacta uid v (escribe db ws) m' (r.acaba m.puntosUid) ↔
        r.abierta = true) ∧
      (r.abierta = true →
        Orden uid (escribe db ws) m' (r.acaba m.puntosUid)) := by
  have hfrente : m.enFrente = true := by
    by_contra hno
    rw [(h.fondo (by simpa using hno)).1] at ht
    cases ht
  obtain ⟨l, hl⟩ := Option.ne_none_iff_exists'.mp hcargada
  rw [onFinish_eq hl h.parche hfrente] at hm'
  obtain ⟨rfl, rfl⟩ := Prod.mk.inj hm'
  -- the countdown was the only one
  have hsolo : m.relojes.erase t = [] := by
    have hlen := List.length_erase_of_mem ht
    exact List.eq_nil_of_length_eq_zero (by have := hx.relojes; omega)
  have hguarda : guardado (escribe db [.setUser m.uid (acreditada l m.puntosUid)])
      uid = suma m.puntosUid (guardado db uid) := by
    rw [← h.copia l hl, ← h.propio]
    exact guardado_of_some (db.aplicar_setUser m.uid _)
  refine ⟨⟨fun hexacta => ?_, fun habierta => ?_⟩, fun habierta => ?_⟩
  · by_contra hno
    have hgames := congrArg Prod.snd hexacta.guardado
    rw [hguarda, hx.guardado] at hgames
    simp only [Rondas.acaba, hno, if_false, suma] at hgames
    omega
  · refine ⟨by simp [hsolo], ?_, ?_⟩
    · have hcount := hx.empezadas
      simp only [Rondas.acaba, habierta, if_true, List.length_append,
        List.length_singleton, Bool.false_eq_true, if_false] at hcount ⊢
      omega
    · rw [hguarda, hx.guardado]
      simp only [Rondas.acaba, habierta, if_true, suma, List.sum_append,
        List.sum_singleton, List.length_append, List.length_singleton,
        Int.add_assoc, Int.natCast_add, Int.natCast_one]
  · refine ⟨h.propio, ?_, h.parche, fun _ => Option.some_ne_none _, ?_,
      h.alFrente, ?_, fun hno => ?_, ?_⟩
    · rintro l' ⟨⟩
      rw [hguarda, ← h.copia l hl]
      exact cuenta_acreditada l m.puntosUid
    · intro s hs
      rw [hsolo] at hs
      cases hs
    · exact fun hno => absurd hno (h.alFrente hfrente)
    · exact absurd (hfrente.symm.trans hno) nofun
    · simp [Rondas.acaba, habierta]

/-- A step that leaves the countdowns, the record and the life cycle alone. -/
theorem Orden.of_igual (h : Orden uid db m r)
    (huid : m'.uid = m.uid) (huser : m'.userjUno = m.userjUno)
    (hparche : m'.isParche = m.isParche)
    (hdial : m'.abiertos ≠ [] → m'.countDownTimerDial ≠ none)
    (hrel : m'.relojes = m.relojes)
    (hreloj : m'.countDownTimer = m.countDownTimer)
    (hresume : m'.countDownTimeronResume = m.countDownTimeronResume)
    (hpausa : m'.isPause = m.isPause) (hfrente : m'.enFrente = m.enFrente) :
    Orden uid db m' r := by
  refine ⟨huid.trans h.propio, ?_, hparche.trans h.parche, hdial, ?_, ?_, ?_,
    ?_, ?_⟩
  · rw [huser]
    exact h.copia
  · rw [hrel, hreloj, hresume]
    exact h.campos
  · rw [hfrente, hreloj]
    exact h.alFrente
  · rw [hreloj, hpausa]
    exact h.sinReloj
  · rw [hfrente, hrel, hpausa]
    exact h.fondo
  · rw [hfrente, hrel]
    exact h.viva

/-- The record arrives: it is the stored one. -/
theorem Orden.lee (h : Orden uid db m r)
    (hm' : m' = (cierra (m.recibeUser (db.users m.uid))).1)
    (hviva : m'.caida = false) : Orden uid db m' r := by
  cases hu : db.users m.uid with
  | none =>
      rw [hm', hu] at hviva
      simp [GameActivity.recibeUser, falla, cierra] at hviva
  | some u =>
      have hstate : m' =
          { m with
            pedido := false
            userjUno := some { de := m.uid, user := u }
            nombreJuno := recorta u.name } := by
        rw [hm', hu]
        simp [GameActivity.recibeUser, sigue, cierra]
      subst hstate
      refine ⟨h.propio, ?_, h.parche, h.dial, h.campos, h.alFrente, h.sinReloj,
        h.fondo, h.viva⟩
      rintro l ⟨⟩
      rw [← h.propio]
      exact (guardado_of_some hu).symm

end Step

/-! ## Runs -/

theorem avanza_eq_some {s s' : Mesa} {e : Suceso} (h : avanza s e = some s') :
    s.2.caida = false ∧ ∃ t, atiende s.1 s.2 e = some t ∧
      s' = (escribe s.1 t.writes, (cierra t).1) := by
  obtain ⟨r, hr, rfl⟩ := Option.map_eq_some_iff.mp h
  obtain ⟨hcaida, -⟩ := Option.ite_none_left_eq_some.mp hr
  obtain ⟨t, ht, hcierra⟩ := react_eq_some hr
  exact ⟨by simpa using hcaida, t, ht,
    congrArg (fun c => (escribe s.1 c.2, c.1)) hcierra⟩

/-- What a step has to do with the rounds: the property holds after it exactly
when it is in order, and then the next step finds things as they should be. -/
def Cuadra (uid : String) (v : ℤ × ℤ) (m : GameActivity) (r : Rondas)
    (e : Suceso) (q : Mesa × Rondas) : Prop :=
  (Exacta uid v q.1.1 q.1.2 q.2 ↔ EnOrden m r e) ∧
    (EnOrden m r e → q.1.2.caida = false → Orden uid q.1.1 q.1.2 q.2)

theorem Orden.cuadra {uid : String} {v : ℤ × ℤ} {s s' : Mesa} {r : Rondas}
    {e : Suceso} (h : Orden uid s.1 s.2 r) (hx : Exacta uid v s.1 s.2 r)
    (hcargada : Cargada (s, r) e) (hstep : avanza s e = some s') :
    Cuadra uid v s.2 r e (s', anota s e r) := by
  obtain ⟨db, m⟩ := s
  obtain ⟨hcaida, t, ht, rfl⟩ := avanza_eq_some hstep
  -- the steps that touch neither the countdowns nor the record
  have hquieta : ∀ {m' : GameActivity}, m'.relojes = m.relojes →
      EnOrden m r e → (m'.caida = false → Orden uid db m' r) →
      Cuadra uid v m r e ((db, m'), r) := fun hrel hok horden =>
    ⟨iff_of_true ⟨hrel ▸ hx.relojes, hx.empezadas, hx.guardado⟩ hok,
      fun _ => horden⟩
  cases e with
  | onCreate =>
      obtain ⟨-, ⟨⟩⟩ := Option.ite_none_left_eq_some.mp ht
      exact hquieta rfl (.of_none rfl rfl) fun _ =>
        h.of_igual rfl rfl rfl h.dial rfl rfl rfl rfl rfl
  | prepara aleatorio =>
      obtain ⟨-, ⟨⟩⟩ := Option.ite_none_right_eq_some.mp ht
      exact hquieta rfl (.of_none rfl rfl) fun _ =>
        h.of_igual rfl rfl rfl h.dial rfl rfl rfl rfl rfl
  | user =>
      obtain ⟨-, ⟨⟩⟩ := Option.ite_none_right_eq_some.mp ht
      have hws : (m.recibeUser (db.users m.uid)).writes = [] := by
        unfold GameActivity.recibeUser
        split <;> rfl
      have hrel : (cierra (m.recibeUser (db.users m.uid))).1.relojes =
          m.relojes := by
        unfold GameActivity.recibeUser
        split <;> rfl
      rw [hws]
      exact hquieta hrel (.of_none rfl rfl) fun hviva => h.lee rfl hviva
  | clicFotoPerfil aleatorio =>
      obtain ⟨-, ⟨⟩⟩ := Option.ite_none_right_eq_some.mp ht
      exact hquieta rfl (.of_none rfl rfl) fun _ =>
        h.of_igual rfl rfl rfl h.dial rfl rfl rfl rfl rfl
  | clicIvjDos aleatorio =>
      obtain ⟨-, ⟨⟩⟩ := Option.ite_none_right_eq_some.mp ht
      exact hquieta rfl (.of_none rfl rfl) fun _ =>
        h.of_igual rfl rfl rfl h.dial rfl rfl rfl rfl rfl
  | onFinish n =>
      obtain ⟨hn, ⟨⟩⟩ := Option.ite_none_right_eq_some.mp ht
      have hcierra : cierra (m.onFinish n) =
        ((cierra (m.onFinish n)).1, (m.onFinish n).writes) := rfl
      obtain ⟨hiff, hnext⟩ := h.onFinish hx hn (hcargada n rfl) hcierra
      exact ⟨hiff.trans enOrden_onFinish_iff.symm,
        fun hok _ => hnext (enOrden_onFinish_iff.mp hok)⟩
  | onResume =>
      obtain ⟨hcond, ⟨⟩⟩ := Option.ite_none_right_eq_some.mp ht
      obtain ⟨hexacta, horden⟩ := h.onResume hx (by simpa using hcond.2.1)
      have hstate : (cierra (sigue m.onResume)).1 = m.onResume := by
        simp [cierra, sigue]
      rw [hstate]
      exact ⟨iff_of_true hexacta (.of_none rfl rfl), fun _ _ => horden⟩
  | onPause =>
      obtain ⟨hfrente, ⟨⟩⟩ := Option.ite_none_right_eq_some.mp ht
      obtain ⟨hexacta, horden⟩ := h.onPause hx hfrente
      have hstate : (cierra (sigue m.onPause)).1 = m.onPause := by
        simp [cierra, sigue]
      rw [hstate]
      exact ⟨iff_of_true hexacta (.of_none rfl rfl), fun _ _ => horden⟩
  | onStop =>
      obtain ⟨-, ⟨⟩⟩ := Option.ite_none_right_eq_some.mp ht
      exact hquieta rfl (.of_none rfl rfl) fun _ =>
        h.of_igual rfl rfl rfl h.dial rfl rfl rfl rfl rfl
  | onBackPressed =>
      obtain ⟨-, ⟨⟩⟩ := Option.ite_none_right_eq_some.mp ht
      exact hquieta rfl (.of_none rfl rfl) fun _ =>
        h.of_igual rfl rfl rfl h.dial rfl rfl rfl rfl rfl
  | reiniciar d aleatorio =>
      obtain ⟨⟨hfrente, hd⟩, ⟨⟩⟩ := Option.ite_none_right_eq_some.mp ht
      have hcierra : cierra (m.reiniciar d aleatorio) =
        ((cierra (m.reiniciar d aleatorio)).1,
          (m.reiniciar d aleatorio).writes) := rfl
      obtain ⟨hws, hiff, hnext⟩ := h.reiniciar hx hfrente hd hcierra
      rw [hws]
      exact ⟨hiff.trans enOrden_reiniciar_iff.symm,
        fun hok _ => hnext (enOrden_reiniciar_iff.mp hok)⟩
  | ranking d =>
      obtain ⟨⟨-, hd⟩, ⟨⟩⟩ := Option.ite_none_right_eq_some.mp ht
      have hdial := h.dial (List.ne_nil_of_mem hd)
      obtain ⟨n, hn⟩ := Option.ne_none_iff_exists'.mp hdial
      have hstate := ranking_eq (d := d) hn
      rw [show (m.ranking d).writes = [] from congrArg Prod.snd hstate,
        show (cierra (m.ranking d)).1 = _ from congrArg Prod.fst hstate]
      exact hquieta rfl (.of_none rfl rfl) fun _ =>
        h.of_igual rfl rfl rfl (fun _ => hdial) rfl rfl rfl rfl rfl
  | onFinishDial d =>
      obtain ⟨-, ⟨⟩⟩ := Option.ite_none_right_eq_some.mp ht
      refine hquieta rfl (.of_none rfl rfl) fun _ =>
        h.of_igual rfl rfl rfl (fun hne => h.dial fun hno => hne ?_) rfl rfl rfl
          rfl rfl
      replace hno : m.abiertos = [] := hno
      simp [onFinishDial, sigue, finish, cierra, hno]

/-- In every run of a solo game whose record is loaded when a countdown expires,
each round is credited once, when it ends, and one countdown runs at a time,
exactly when every expiry belongs to a round and the game is restarted with no
countdown running. -/
theorem rondas_exactas (uid : String) (db : BaseDatos) {es : List Suceso}
    {q : Mesa × Rondas}
    (hrun : Runs.run avanzaAnotado (inicio uid db) es = some q)
    (hcargada : Runs.Along avanzaAnotado Cargada (inicio uid db) es) :
    (∀ xs ys t, es = xs ++ ys →
        Runs.run avanzaAnotado (inicio uid db) xs = some t →
          Exacta uid (guardado db uid) t.1.1 t.1.2 t.2) ↔
      Runs.Along avanzaAnotado (fun p e => EnOrden p.1.2 p.2 e)
        (inicio uid db) es := by
  refine Runs.reached_iff_along
    (I := fun p => p.1.2.caida = false → Orden uid p.1.1 p.1.2 p.2) ?_
    (fun _ => orden_inicio uid db) (exacta_inicio uid db) hcargada hrun
  intro p e q hI hx hcarga hstep
  obtain ⟨hs, hr⟩ := Runs.ghost_eq_some hstep
  have hviva := (avanza_eq_some hs).1
  obtain ⟨s', r'⟩ := q
  subst hr
  exact (hI hviva).cuadra hx hcarga hs

/-- Ana has 10 points from 4 games. -/
def conAna : BaseDatos :=
  BaseDatos.vacia.conUser "a" (User.nuevo "Ana" 10 4 "a")

/-- A round with one point and a pause, and the beginning of the next. -/
def rondaAna : List Suceso :=
  [.onCreate, .prepara (sale 0), .user, .onResume, .clicFotoPerfil (sale 0), .onPause,
    .onResume, .onFinish 1, .reiniciar 2 (sale 0)]

theorem rondas_exactas_ana :
    ∃ q, Runs.run avanzaAnotado (inicio "a" conAna) rondaAna = some q ∧
      q.2.puntos = [1] ∧
      Exacta "a" (guardado conAna "a") q.1.1 q.1.2 q.2 := by
  have hexactas := (rondas_exactas "a" conAna
    (show Runs.run avanzaAnotado (inicio "a" conAna) rondaAna = some _ from rfl)
    (by decide)).mpr (by decide)
  exact ⟨_, rfl, by decide,
    hexactas rondaAna [] _ (List.append_nil rondaAna).symm rfl⟩

/-- The dialog is open when the player pauses and comes back; the countdown that
this starts credits the round again. -/
theorem segundo_credito :
    ∃ q, Runs.run avanzaAnotado (inicio "a" conAna)
        [.onCreate, .prepara (sale 0), .user, .onResume, .clicFotoPerfil (sale 0),
          .onFinish 0, .onPause, .onResume, .onFinish 2] = some q ∧
      q.2.puntos = [1] ∧ guardado q.1.1 "a" = (12, 6) ∧
      ¬Exacta "a" (10, 4) q.1.1 q.1.2 q.2 := by
  refine ⟨_, rfl, by decide, by decide, fun h => ?_⟩
  have hguardado := h.guardado
  exact absurd hguardado (by decide)

end Tocate.GameActivity
