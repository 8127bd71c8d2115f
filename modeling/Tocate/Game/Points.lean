import Tocate.Game.Rounds

/-!
# The points of a solo round

Each of the two images is worth a point under one of the two orders.  Under the
other one `fotoPerfil` costs a point and `IvjDos` costs two, and neither of the
guards is the one that its penalty needs.
-/

namespace Tocate.GameActivity

open Cloud Sesiones

/-! ## The order on the screen -/

/-- The text of an order. -/
inductive Rotulo where
  | SetTocate
  | SetTocame1
deriving DecidableEq, Repr

/-- The text that `EtTocate` sets. -/
def EtTocate : Fin 2 → Rotulo
  | 0 => .SetTocate
  | 1 => .SetTocame1

/-- What the player sees of a round: the text of the order, and how many of his
taps have obeyed it. -/
structure Tablero where
  tvOrden : Option Rotulo := none
  obedecidos : ℤ := 0
deriving DecidableEq, Repr

/-- A tap on the image that `pedida` asks for, after which `aleatorio` is
drawn. -/
def Tablero.toca (g : Tablero) (pedida : Rotulo) (aleatorio : Fin 2) : Tablero where
  tvOrden := some (EtTocate aleatorio)
  obedecidos := g.obedecidos + if g.tvOrden = some pedida then 1 else 0

/-- Orders and obeying taps, carried along a run. -/
def contempla (_ : Mesa) (e : Suceso) (g : Tablero) : Tablero :=
  match e with
  | .prepara aleatorio | .reiniciar _ aleatorio =>
      { tvOrden := some (EtTocate aleatorio) }
  | .clicFotoPerfil aleatorio => g.toca .SetTocate aleatorio
  | .clicIvjDos aleatorio => g.toca .SetTocame1 aleatorio
  | _ => g

abbrev avanzaContado : Mesa × Tablero → Suceso → Option (Mesa × Tablero) :=
  Runs.ghost avanza contempla

/-- The points are between zero and the number of taps that have obeyed. -/
def EnLimites (p : Mesa × Tablero) : Prop :=
  0 ≤ p.1.2.puntosUid ∧ p.1.2.puntosUid ≤ p.2.obedecidos

/-- The stored points are not lowered by the step. -/
def SinRebaja (s : Mesa) (e : Suceso) : Prop :=
  ∀ s', avanza s e = some s' →
    (guardado s.1 s.2.uid).1 ≤ (guardado s'.1 s.2.uid).1

def Suceso.esFotoPerfil : Suceso → Bool
  | .clicFotoPerfil _ => true
  | _ => false

def Suceso.esIvjDos : Suceso → Bool
  | .clicIvjDos _ => true
  | _ => false

/-- A tap that breaks the order finds as many points as it costs, or, on
`IvjDos`, none at all. -/
structure Cobrable (m : GameActivity) (e : Suceso) : Prop where
  fotoPerfil : e.esFotoPerfil = true → m.n = 1 → m.puntosUid ≠ 0
  ivjDos : e.esIvjDos = true → m.n = 0 → m.puntosUid ≠ 1

instance (m : GameActivity) (e : Suceso) : Decidable (Cobrable m e) :=
  decidable_of_iff
    ((e.esFotoPerfil = true → m.n.val = 1 → m.puntosUid ≠ 0) ∧
      (e.esIvjDos = true → m.n.val = 0 → m.puntosUid ≠ 1))
    ⟨fun h => ⟨fun he hn => h.1 he (congrArg Fin.val hn),
        fun he hn => h.2 he (congrArg Fin.val hn)⟩,
      fun h => ⟨fun he hn => h.fotoPerfil he (Fin.ext hn),
        fun he hn => h.ivjDos he (Fin.ext hn)⟩⟩

/-- Nothing is asked of an event that is not a tap. -/
theorem Cobrable.of_otro {m : GameActivity} {e : Suceso}
    (hfoto : e.esFotoPerfil = false) (hivj : e.esIvjDos = false) :
    Cobrable m e := by
  constructor
  · rw [hfoto]
    rintro ⟨⟩
  · rw [hivj]
    rintro ⟨⟩

/-! ## What a tap makes of the points -/

theorem EtTocate_eq_SetTocate (n : Fin 2) : EtTocate n = .SetTocate ↔ n = 0 := by
  match n with
  | 0 => exact iff_of_true rfl rfl
  | 1 => exact iff_of_false nofun nofun

theorem EtTocate_eq_SetTocame1 (n : Fin 2) :
    EtTocate n = .SetTocame1 ↔ n = 1 := by
  match n with
  | 0 => exact iff_of_false nofun nofun
  | 1 => exact iff_of_true rfl rfl

section Toques

variable {puntosUid obedecidos : ℤ} {n : Fin 2}

/-- A tap on `fotoPerfil`, from points within their bounds. -/
theorem puntosFotoPerfil_limites (h0 : 0 ≤ puntosUid)
    (hle : puntosUid ≤ obedecidos) :
    (0 ≤ puntosFotoPerfil n puntosUid ∧
        puntosFotoPerfil n puntosUid ≤ obedecidos + if n = 0 then 1 else 0) ↔
      (n = 1 → puntosUid ≠ 0) := by
  match n with
  | 0 =>
      refine iff_of_true ?_ nofun
      simp only [puntosFotoPerfil, if_true]
      omega
  | 1 =>
      have hobedece : ¬(1 : Fin 2) = 0 := nofun
      simp only [puntosFotoPerfil, ge_iff_le, h0, if_true, hobedece, if_false,
        forall_const]
      omega

/-- A tap on `IvjDos`: the guard lets a single point pass. -/
theorem puntosIvjDos_limites (h0 : 0 ≤ puntosUid)
    (hle : puntosUid ≤ obedecidos) :
    (0 ≤ puntosIvjDos n puntosUid ∧
        puntosIvjDos n puntosUid ≤ obedecidos + if n = 1 then 1 else 0) ↔
      (n = 0 → puntosUid ≠ 1) := by
  match n with
  | 0 =>
      have hobedece : ¬(0 : Fin 2) = 1 := nofun
      simp only [puntosIvjDos, hobedece, if_false, forall_const]
      split <;> omega
  | 1 =>
      refine iff_of_true ?_ nofun
      simp only [puntosIvjDos, if_true]
      omega

end Toques

/-! ## One step -/

/-- What the taps read and change. -/
def juego (m : GameActivity) : ℤ × Fin 2 × Bool :=
  (m.puntosUid, m.n, m.preparada)

/-- The loaded record is the stored one, and the text on the screen is the one
of the order. -/
structure Fiel (s : Mesa) (g : Tablero) : Prop where
  copia : ∀ l, s.2.userjUno = some l → l.user.cuenta = guardado s.1 s.2.uid
  rotulo : s.2.preparada = true → g.tvOrden = some (EtTocate s.2.n)

theorem juego_onPause (m : GameActivity) : m.onPause.juego = m.juego := by
  rw [onPause_eq]
  rfl

theorem juego_onResume (m : GameActivity) : m.onResume.juego = m.juego := by
  rw [onResume_eq]
  split <;> rfl

/-- A tap, the set-up and the restart set points and order; nothing else
does. -/
theorem juego_cases {s s' : Mesa} {e : Suceso} (h : avanza s e = some s') :
    (∃ aleatorio, e = .clicFotoPerfil aleatorio ∧ s.2.preparada = true ∧
      s'.2.puntosUid = puntosFotoPerfil s.2.n s.2.puntosUid ∧
      s'.2.n = aleatorio) ∨
    (∃ aleatorio, e = .clicIvjDos aleatorio ∧ s.2.preparada = true ∧
      s'.2.puntosUid = puntosIvjDos s.2.n s.2.puntosUid ∧
      s'.2.n = aleatorio) ∨
    (∃ aleatorio, (e = .prepara aleatorio ∨ ∃ d, e = .reiniciar d aleatorio) ∧
      s'.2.puntosUid = 0 ∧ s'.2.n = aleatorio) ∨
    ((∀ g, contempla s e g = g) ∧ (∀ m, Cobrable m e) ∧
      s'.2.juego = s.2.juego) := by
  obtain ⟨db, m⟩ := s
  obtain ⟨-, t, ht, rfl⟩ := avanza_eq_some h
  cases e with
  | onCreate =>
      obtain ⟨-, ⟨⟩⟩ := Option.ite_none_left_eq_some.mp ht
      exact Or.inr (Or.inr (Or.inr ⟨fun _ => rfl, fun _ => .of_otro rfl rfl, rfl⟩))
  | prepara aleatorio =>
      obtain ⟨-, ⟨⟩⟩ := Option.ite_none_right_eq_some.mp ht
      exact Or.inr (Or.inr (Or.inl ⟨aleatorio, Or.inl rfl, rfl, rfl⟩))
  | user =>
      obtain ⟨-, ⟨⟩⟩ := Option.ite_none_right_eq_some.mp ht
      refine Or.inr (Or.inr (Or.inr ⟨fun _ => rfl, fun _ => .of_otro rfl rfl, ?_⟩))
      unfold recibeUser
      split <;> rfl
  | clicFotoPerfil aleatorio =>
      obtain ⟨⟨hprep, -⟩, ⟨⟩⟩ := Option.ite_none_right_eq_some.mp ht
      exact Or.inl ⟨aleatorio, rfl, hprep, rfl, rfl⟩
  | clicIvjDos aleatorio =>
      obtain ⟨⟨hprep, -⟩, ⟨⟩⟩ := Option.ite_none_right_eq_some.mp ht
      exact Or.inr (Or.inl ⟨aleatorio, rfl, hprep, rfl, rfl⟩)
  | onFinish n =>
      obtain ⟨-, ⟨⟩⟩ := Option.ite_none_right_eq_some.mp ht
      refine Or.inr (Or.inr (Or.inr ⟨fun _ => rfl, fun _ => .of_otro rfl rfl, ?_⟩))
      unfold onFinish
      dsimp only
      split
      · unfold funcionGameover
        split
        · rfl
        · simp only [Outcome.andThen_mk_false]
          unfold dialogo_Gameover
          split <;> rfl
      · rfl
  | onResume =>
      obtain ⟨-, ⟨⟩⟩ := Option.ite_none_right_eq_some.mp ht
      exact Or.inr (Or.inr (Or.inr ⟨fun _ => rfl, fun _ => .of_otro rfl rfl,
        juego_onResume m⟩))
  | onPause =>
      obtain ⟨-, ⟨⟩⟩ := Option.ite_none_right_eq_some.mp ht
      exact Or.inr (Or.inr (Or.inr ⟨fun _ => rfl, fun _ => .of_otro rfl rfl,
        juego_onPause m⟩))
  | onStop =>
      obtain ⟨-, ⟨⟩⟩ := Option.ite_none_right_eq_some.mp ht
      exact Or.inr (Or.inr (Or.inr ⟨fun _ => rfl, fun _ => .of_otro rfl rfl, rfl⟩))
  | onBackPressed =>
      obtain ⟨-, ⟨⟩⟩ := Option.ite_none_right_eq_some.mp ht
      exact Or.inr (Or.inr (Or.inr ⟨fun _ => rfl, fun _ => .of_otro rfl rfl, rfl⟩))
  | reiniciar d aleatorio =>
      obtain ⟨-, ⟨⟩⟩ := Option.ite_none_right_eq_some.mp ht
      refine Or.inr (Or.inr (Or.inl ⟨aleatorio, Or.inr ⟨d, rfl⟩, ?_⟩))
      unfold reiniciar cancelaCountDownTimerDial
      split
      · exact ⟨rfl, rfl⟩
      · exact ⟨rfl, rfl⟩
  | ranking d =>
      obtain ⟨-, ⟨⟩⟩ := Option.ite_none_right_eq_some.mp ht
      refine Or.inr (Or.inr (Or.inr ⟨fun _ => rfl, fun _ => .of_otro rfl rfl, ?_⟩))
      unfold ranking cancelaCountDownTimerDial
      split <;> rfl
  | onFinishDial d =>
      obtain ⟨-, ⟨⟩⟩ := Option.ite_none_right_eq_some.mp ht
      exact Or.inr (Or.inr (Or.inr ⟨fun _ => rfl, fun _ => .of_otro rfl rfl, rfl⟩))

/-- The loaded record stays the stored one, and only points below zero would
lower what is stored. -/
theorem copia_step {s s' : Mesa} {e : Suceso}
    (h : ∀ l, s.2.userjUno = some l → l.user.cuenta = guardado s.1 s.2.uid)
    (hstep : avanza s e = some s') :
    (∀ l, s'.2.userjUno = some l → l.user.cuenta = guardado s'.1 s'.2.uid) ∧
      (0 ≤ s.2.puntosUid →
        (guardado s.1 s.2.uid).1 ≤ (guardado s'.1 s.2.uid).1) := by
  obtain ⟨⟨m', ws⟩, hr, rfl⟩ := Option.map_eq_some_iff.mp hstep
  rcases react_cases hr with ⟨-, -, l, ht⟩ | ⟨-, hl⟩ | ⟨-, -, hq⟩
  · have hguarda : guardado (escribe s.1 ws) s.2.uid =
        suma s.2.puntosUid (guardado s.1 s.2.uid) := by
      rw [← h l ht.antes, ht.writes]
      exact guardado_of_some (s.1.aplicar_setUser s.2.uid _)
    refine ⟨fun k hk => ?_, fun h0 => ?_⟩
    · rw [ht.despues] at hk
      cases hk
      rw [ht.uid, hguarda, ← h l ht.antes]
      exact cuenta_acreditada l s.2.puntosUid
    · rw [hguarda]
      simp only [suma]
      omega
  · rw [hl.writes]
    refine ⟨fun k hk => ?_, fun _ => Int.le_refl _⟩
    rw [hl.userjUno] at hk
    obtain ⟨u, hu, rfl⟩ := Option.map_eq_some_iff.mp hk
    rw [hl.uid]
    exact (guardado_of_some hu).symm
  · rw [hq.writes]
    refine ⟨fun k hk => ?_, fun _ => Int.le_refl _⟩
    rw [hq.userjUno] at hk
    rw [hq.uid]
    exact h k hk

/-- One step: the points stay within their bounds exactly when a tap that breaks
the order can be charged. -/
theorem Fiel.step {p q : Mesa × Tablero} {e : Suceso} (h : Fiel p.1 p.2)
    (hlim : EnLimites p) (hstep : avanzaContado p e = some q) :
    (EnLimites q ↔ Cobrable p.1.2 e) ∧ Fiel q.1 q.2 := by
  obtain ⟨s, g⟩ := p
  obtain ⟨s', g'⟩ := q
  obtain ⟨hs, hg⟩ := Runs.ghost_eq_some hstep
  dsimp only at hs hg
  subst hg
  obtain ⟨hcopia, -⟩ := copia_step h.copia hs
  obtain ⟨h0, hle⟩ := hlim
  rcases juego_cases hs with ⟨aleatorio, rfl, hprep, hpuntos, hn⟩ |
    ⟨aleatorio, rfl, hprep, hpuntos, hn⟩ | ⟨aleatorio, he, hpuntos, hn⟩ |
    ⟨hcontempla, hcobrable, hjuego⟩
  · have hrotulo : g.tvOrden = some (EtTocate s.2.n) := h.rotulo hprep
    refine ⟨?_, hcopia, fun _ => ?_⟩
    · unfold EnLimites
      simp only [contempla, Tablero.toca, hrotulo, Option.some_inj,
        EtTocate_eq_SetTocate, hpuntos]
      exact (puntosFotoPerfil_limites h0 hle).trans
        ⟨fun hok => ⟨fun _ => hok, nofun⟩, fun hok => hok.fotoPerfil rfl⟩
    · rw [hn]
      rfl
  · have hrotulo : g.tvOrden = some (EtTocate s.2.n) := h.rotulo hprep
    refine ⟨?_, hcopia, fun _ => ?_⟩
    · unfold EnLimites
      simp only [contempla, Tablero.toca, hrotulo, Option.some_inj,
        EtTocate_eq_SetTocame1, hpuntos]
      exact (puntosIvjDos_limites h0 hle).trans
        ⟨fun hok => ⟨nofun, fun _ => hok⟩, fun hok => hok.ivjDos rfl⟩
    · rw [hn]
      rfl
  · have hnuevo : contempla s e g = { tvOrden := some (EtTocate aleatorio) } := by
      rcases he with rfl | ⟨d, rfl⟩
      · rfl
      · rfl
    have hcobrable : Cobrable s.2 e := by
      rcases he with rfl | ⟨d, rfl⟩
      · exact .of_otro rfl rfl
      · exact .of_otro rfl rfl
    refine ⟨iff_of_true ?_ hcobrable, hcopia, fun _ => ?_⟩
    · unfold EnLimites
      rw [hnuevo, hpuntos]
      exact ⟨Int.le_refl 0, Int.le_refl 0⟩
    · rw [hnuevo, hn]
  · have hmismo := hjuego
    unfold juego at hmismo
    simp only [Prod.mk.injEq] at hmismo
    obtain ⟨hpuntos, hn, hprep⟩ := hmismo
    rw [hcontempla]
    refine ⟨iff_of_true ?_ (hcobrable s.2), hcopia, fun hlista => ?_⟩
    · unfold EnLimites
      rw [hpuntos]
      exact ⟨h0, hle⟩
    · rw [hn]
      exact h.rotulo (hprep ▸ hlista)

theorem fiel_inicio (uid : String) (db : BaseDatos) : Fiel (db, nueva uid) {} :=
  ⟨nofun, nofun⟩

/-- In every run of a solo game the points stay between zero and the number of
taps of the round that have obeyed the order, and no credit lowers what is
stored, exactly when no tap on `fotoPerfil` breaks the order at zero points and
none on `IvjDos` at one point. -/
theorem en_limites_iff (uid : String) (db : BaseDatos) {es : List Suceso}
    {q : Mesa × Tablero}
    (hrun : Runs.run avanzaContado ((db, nueva uid), {}) es = some q) :
    ((∀ xs ys t, es = xs ++ ys →
        Runs.run avanzaContado ((db, nueva uid), {}) xs = some t →
          EnLimites t) ∧
      Runs.Along avanzaContado (fun p e => SinRebaja p.1 e)
        ((db, nueva uid), {}) es) ↔
      Runs.Along avanzaContado (fun p e => Cobrable p.1.2 e)
        ((db, nueva uid), {}) es := by
  have hinicio := fiel_inicio uid db
  have hlim : EnLimites ((db, nueva uid), {}) :=
    ⟨Int.le_refl 0, Int.le_refl 0⟩
  have hiff := Runs.reached_iff_along_of_step
    (fun p e q (h : Fiel p.1 p.2) hlim hstep =>
      ⟨(h.step hlim hstep).1, fun _ => (h.step hlim hstep).2⟩)
    hinicio hlim hrun
  refine ⟨fun h => hiff.mp h.1, fun hok => ⟨hiff.mpr hok, ?_⟩⟩
  refine Runs.Along.of_invariant
    (I := fun p => Fiel p.1 p.2 ∧ EnLimites p) ?_ ?_ ⟨hinicio, hlim⟩ hok
  · rintro p e q ⟨h, hlim⟩ hok hstep
    obtain ⟨hiff, hnext⟩ := h.step hlim hstep
    exact ⟨hnext, hiff.mpr hok⟩
  · rintro p e ⟨h, hlim⟩ - s' hstep
    exact (copia_step h.copia hstep).2 hlim.1

/-- A round in which Ana scores twice and then breaks the order of `IvjDos`. -/
def rondaCobrada : List Suceso :=
  [.onCreate, .prepara (sale 0), .user, .onResume, .clicFotoPerfil (sale 1), .clicIvjDos (sale 0),
    .clicIvjDos (sale 0), .onFinish 0]

theorem en_limites_ana :
    (Runs.run avanzaContado ((conAna, nueva "a"), {}) rondaCobrada).isSome =
        true ∧
      Runs.Along avanzaContado (fun p e => SinRebaja p.1 e)
        ((conAna, nueva "a"), {}) rondaCobrada :=
  ⟨rfl, ((en_limites_iff "a" conAna
    (show Runs.run avanzaContado ((conAna, nueva "a"), {}) rondaCobrada =
      some _ from rfl)).mpr (by decide)).2⟩

/-- A point earned on `fotoPerfil` is worth minus one after a tap on `IvjDos`
that breaks the order, and Ana's ten points become nine. -/
theorem ana_bajo_cero :
    ∃ p q, Runs.run avanzaContado ((conAna, nueva "a"), {})
        [.onCreate, .prepara (sale 0), .user, .onResume, .clicFotoPerfil (sale 0),
          .clicIvjDos (sale 0)] = some p ∧
      p.1.2.puntosUid = -1 ∧ ¬EnLimites p ∧
      avanzaContado p (.onFinish 0) = some q ∧
      (guardado p.1.1 "a").1 = 10 ∧ (guardado q.1.1 "a").1 = 9 := by
  refine ⟨_, _, rfl, rfl, fun h => ?_, rfl, rfl, rfl⟩
  exact absurd h.1 (by decide)

end Tocate.GameActivity
