import Mathlib.Data.Set.Prod
import Mathlib.Order.Interval.Set.Disjoint
import Mathlib.Order.CompletePartialOrder
import Mathlib.Order.ConditionallyCompleteLattice.Basic
import Mathlib.Data.Int.ConditionallyCompleteOrder
import Tocate.Lib.Runs
import Tocate.Lib.Sampling

/-!
# Where the two images are put

`moverImangen`, `funcionAleatorio` and `initPantalla` are the same in
`GameActivity` and in `MultPlayerActivity`, and so is the pair of calls that
moves both images, `IvjDos` being the first to be looked at.  The other image is
`fotoPerfil` in the one and `IvjUno` in the other.  What `nextInt` draws is given
in lists.  Sizes and positions are those of views, far from the end of the
integers.
-/

namespace Tocate.Imagenes

/-- What `initPantalla` reads, and where on the screen the parent of the images
is. -/
structure Pantalla where
  anchoPant : ℕ
  altoPant : ℕ
  padreX : ℤ
  padreY : ℤ
deriving DecidableEq, Repr

structure Medidas where
  width : ℕ
  height : ℕ
deriving DecidableEq, Repr

/-- An image, and where its parent has it. -/
structure ImageView extends Medidas where
  x : ℤ
  y : ℤ
deriving DecidableEq, Repr

def Pantalla.getLocationOnScreen (p : Pantalla) (v : ImageView) : ℤ × ℤ :=
  (v.x + p.padreX, v.y + p.padreY)

/-! ## Draws -/

/-- `aleatorio.nextInt(bound)`, which throws without a positive bound. -/
def nextInt (bound : ℤ) (sorteo : ℕ) : Option ℤ :=
  if 0 < bound then some (sorteo % bound) else none

/-- The bound that `funcionAleatorio` passes. -/
def bound (min maximo : ℤ) : ℤ := ((maximo - min) + 1) + min

def funcionAleatorio (min maximo : ℤ) (sorteo : ℕ) : Option ℤ :=
  nextInt (bound min maximo) sorteo

/-- `stop` after a draw. -/
def stop (ran rangomin rangomax : ℤ) : ℕ :=
  if ran < rangomin then 1
  else if ran ≥ rangomax then 1
  else 0

theorem stop_ne_zero_iff {ran rangomin rangomax : ℤ} :
    stop ran rangomin rangomax ≠ 0 ↔ ran < rangomin ∨ rangomax ≤ ran := by
  unfold stop
  split
  next hmin => exact iff_of_true Nat.one_ne_zero (Or.inl hmin)
  next hmin =>
    split
    next hmax => exact iff_of_true Nat.one_ne_zero (Or.inr hmax)
    next hmax =>
      apply iff_of_false (fun h => h rfl)
      rintro (h | h)
      · exact hmin h
      · exact hmax h

theorem funcionAleatorio_eq_some {maximo ran : ℤ} {sorteo : ℕ}
    (h : funcionAleatorio 0 maximo sorteo = some ran) :
    0 ≤ ran ∧ ran ≤ maximo := by
  obtain ⟨hbound, hran⟩ := Option.ite_none_right_eq_some.mp h
  have hran := Option.some.inj hran
  have hmenor := Int.emod_lt_of_pos (sorteo : ℤ) hbound
  rw [hran] at hmenor
  rw [← hran]
  refine ⟨Int.emod_nonneg _ (Int.ne_of_gt hbound), ?_⟩
  unfold bound at hmenor
  omega

/-- Every number up to `maximo` can be drawn. -/
theorem funcionAleatorio_toNat {maximo ran : ℤ} (h0 : 0 ≤ ran)
    (hle : ran ≤ maximo) : funcionAleatorio 0 maximo ran.toNat = some ran := by
  have hmenor : ran < bound 0 maximo := by
    unfold bound
    omega
  unfold funcionAleatorio nextInt
  rw [if_pos (Int.lt_of_le_of_lt h0 hmenor), Int.toNat_of_nonneg h0,
    Int.emod_eq_of_lt h0 hmenor]

/-- The loop that draws up to `maximo` while `stop == 0`. -/
def sortea (maximo rangomin rangomax : ℤ) : List ℕ → Option ℤ :=
  Sampling.reject (funcionAleatorio 0 maximo) fun ran =>
    stop ran rangomin rangomax ≠ 0

theorem sortea_eq_some {maximo rangomin rangomax ran : ℤ} {sorteos : List ℕ}
    (h : sortea maximo rangomin rangomax sorteos = some ran) :
    0 ≤ ran ∧ ran ≤ maximo ∧ (ran < rangomin ∨ rangomax ≤ ran) := by
  obtain ⟨hstop, sorteo, -, hsorteo⟩ := Sampling.reject_eq_some h
  obtain ⟨h0, hle⟩ := funcionAleatorio_eq_some hsorteo
  exact ⟨h0, hle, stop_ne_zero_iff.mp hstop⟩

theorem sortea_toNat {maximo rangomin rangomax ran : ℤ} (h0 : 0 ≤ ran)
    (hle : ran ≤ maximo) (hfuera : ran < rangomin ∨ rangomax ≤ ran) :
    sortea maximo rangomin rangomax [ran.toNat] = some ran :=
  Sampling.reject_singleton (funcionAleatorio_toNat h0 hle)
    (stop_ne_zero_iff.mpr hfuera)

/-! ## A move -/

/-- The draws of a call: those of the two loops, and the one for the text. -/
structure Sorteos where
  deX : List ℕ
  deY : List ℕ
  deOrden : Fin 2 := 0
deriving DecidableEq, Repr

/-- What has become of `imagen1` when the draws have been made, and where the
text `tvOrden` goes.  Without a number to end the X loop nothing has been moved;
without one to end the Y loop `imagen1` has its new `x` already, and the call
does not come to its end. -/
def moverImangen (p : Pantalla) (imagen0 imagen1 : ImageView) (s : Sorteos) :
    Option (ImageView × Option (ℤ × ℤ)) := do
  let location := p.getLocationOnScreen imagen0
  let rangoXmin := location.1 - imagen1.width
  let rangoXmax := location.1 + imagen0.width
  let ranX ← sortea (p.anchoPant - imagen0.width) rangoXmin rangoXmax s.deX
  let imagen1 := { imagen1 with x := ranX }
  let rangoYmin := location.2 - imagen1.height
  let rangoYmax := location.2 + imagen0.height
  match sortea (p.altoPant - 2 * imagen0.height) rangoYmin rangoYmax s.deY with
  | none => some (imagen1, none)
  | some ranY =>
      let tvOrden :=
        match s.deOrden with
        | 0 => (location.1, location.2 + imagen0.height / 2)
        | 1 => (ranX, ranY + imagen0.height * (4 / 3))
      some ({ imagen1 with y := ranY }, some tvOrden)

/-- The screen: both images, the text, and which of the two calls is next. -/
structure Escena where
  IvjUno : ImageView
  IvjDos : ImageView
  tvOrden : ℤ × ℤ
  segunda : Bool := false
deriving DecidableEq, Repr

/-- The next call of the pair `moverImangen(IvjDos, IvjUno);
moverImangen(IvjUno, IvjDos)`, if it comes to its end. -/
def mueve (p : Pantalla) (e : Escena) (s : Sorteos) : Option Escena :=
  if e.segunda then
    match moverImangen p e.IvjUno e.IvjDos s with
    | some (IvjDos, some tvOrden) =>
        some { e with IvjDos := IvjDos, tvOrden := tvOrden, segunda := false }
    | _ => none
  else
    match moverImangen p e.IvjDos e.IvjUno s with
    | some (IvjUno, some tvOrden) =>
        some { e with IvjUno := IvjUno, tvOrden := tvOrden, segunda := true }
    | _ => none

/-! ## What a move does -/

section Move

variable {p : Pantalla} {imagen0 imagen1 v : ImageView} {s : Sorteos}
  {o : Option (ℤ × ℤ)} {tvOrden : ℤ × ℤ}

/-- `imagen1` has been put at the `x` of `v`: within the range of the draw, and
clear of `imagen0`, where its own place in the parent is compared with the place
of `imagen0` on the screen. -/
structure Apartada (p : Pantalla) (imagen0 imagen1 v : ImageView) : Prop where
  medidas : v.toMedidas = imagen1.toMedidas
  x_nonneg : 0 ≤ v.x
  x_le : v.x ≤ p.anchoPant - imagen0.width
  x_fuera : v.x < (p.getLocationOnScreen imagen0).1 - imagen1.width ∨
    (p.getLocationOnScreen imagen0).1 + imagen0.width ≤ v.x

/-- It has been put at `v` in both directions. -/
structure Colocada (p : Pantalla) (imagen0 imagen1 v : ImageView) : Prop
    extends Apartada p imagen0 imagen1 v where
  y_nonneg : 0 ≤ v.y
  y_le : v.y ≤ p.altoPant - 2 * imagen0.height
  y_fuera : v.y < (p.getLocationOnScreen imagen0).2 - imagen1.height ∨
    (p.getLocationOnScreen imagen0).2 + imagen0.height ≤ v.y

/-- A call that has moved `imagen1` has put it clear of `imagen0`, whether the
Y loop ends or not. -/
theorem apartada_of_moverImangen
    (h : moverImangen p imagen0 imagen1 s = some (v, o)) :
    Apartada p imagen0 imagen1 v := by
  obtain ⟨ranX, hranX, h⟩ := Option.bind_eq_some_iff.mp h
  obtain ⟨hx0, hxle, hxfuera⟩ := sortea_eq_some hranX
  dsimp only at h
  split at h
  · obtain ⟨rfl, -⟩ := Prod.mk.inj (Option.some.inj h)
    exact ⟨rfl, hx0, hxle, hxfuera⟩
  · obtain ⟨rfl, -⟩ := Prod.mk.inj (Option.some.inj h)
    exact ⟨rfl, hx0, hxle, hxfuera⟩

theorem colocada_of_moverImangen
    (h : moverImangen p imagen0 imagen1 s = some (v, some tvOrden)) :
    Colocada p imagen0 imagen1 v := by
  have hapartada := apartada_of_moverImangen h
  obtain ⟨ranX, -, h⟩ := Option.bind_eq_some_iff.mp h
  dsimp only at h
  split at h
  · cases h
  next ranY hranY =>
    obtain ⟨hy0, hyle, hyfuera⟩ := sortea_eq_some hranY
    obtain ⟨rfl, -⟩ := Prod.mk.inj (Option.some.inj h)
    exact ⟨hapartada, hy0, hyle, hyfuera⟩

/-- Every such `x` can be drawn. -/
theorem moverImangen_of_apartada (h : Apartada p imagen0 imagen1 v) :
    ∃ s v' o, moverImangen p imagen0 imagen1 s = some (v', o) ∧
      v'.x = v.x := by
  refine ⟨{ deX := [v.x.toNat], deY := [] }, { imagen1 with x := v.x }, none,
    ?_, rfl⟩
  unfold moverImangen
  dsimp only
  rw [sortea_toNat h.x_nonneg h.x_le h.x_fuera]
  rfl

/-- Every such place can be drawn. -/
theorem moverImangen_of_colocada (h : Colocada p imagen0 imagen1 v) :
    ∃ s tvOrden, moverImangen p imagen0 imagen1 s = some (v, some tvOrden) := by
  refine ⟨{ deX := [v.x.toNat], deY := [v.y.toNat] }, ?_⟩
  unfold moverImangen
  dsimp only
  rw [sortea_toNat h.x_nonneg h.x_le h.x_fuera, Option.bind_eq_bind,
    Option.bind_some, sortea_toNat h.y_nonneg h.y_le h.y_fuera]
  refine ⟨_, congrArg (fun v => some (v, some _)) ?_⟩
  rw [← h.medidas]

end Move

theorem mueve_eq_some {p : Pantalla} {e e' : Escena} {s : Sorteos}
    (h : mueve p e s = some e') :
    (e.segunda = true ∧ e'.segunda = false ∧ e'.IvjUno = e.IvjUno ∧
      Colocada p e.IvjUno e.IvjDos e'.IvjDos) ∨
    (e.segunda = false ∧ e'.segunda = true ∧ e'.IvjDos = e.IvjDos ∧
      Colocada p e.IvjDos e.IvjUno e'.IvjUno) := by
  unfold mueve at h
  split at h
  next hsegunda =>
    split at h
    next v o hv =>
      obtain rfl := Option.some.inj h
      exact Or.inl ⟨hsegunda, rfl, rfl, colocada_of_moverImangen hv⟩
    · cases h
  next hsegunda =>
    split at h
    next v o hv =>
      obtain rfl := Option.some.inj h
      exact Or.inr ⟨by simpa using hsegunda, rfl, rfl,
        colocada_of_moverImangen hv⟩
    · cases h

/-! ## The images do not overlap -/

/-- The part of the screen that an image takes. -/
def Pantalla.rectangulo (p : Pantalla) (v : ImageView) : Set (ℤ × ℤ) :=
  Set.Ico (p.getLocationOnScreen v).1 ((p.getLocationOnScreen v).1 + v.width) ×ˢ
    Set.Ico (p.getLocationOnScreen v).2 ((p.getLocationOnScreen v).2 + v.height)

/-- Where the parent begins at the edge of the screen, an image is put beside
the other one. -/
theorem Colocada.disjoint {p : Pantalla} {imagen0 imagen1 v : ImageView}
    (h : Colocada p imagen0 imagen1 v) (hpadre : p.padreX = 0) :
    Disjoint (p.rectangulo imagen0) (p.rectangulo v) := by
  have hancho : v.width = imagen1.width := congrArg Medidas.width h.medidas
  have hfuera := h.x_fuera
  unfold Pantalla.getLocationOnScreen at hfuera
  refine Set.disjoint_prod.mpr (Or.inl (Set.Ico_disjoint_Ico.mpr ?_))
  simp only [Pantalla.getLocationOnScreen, hpadre, hancho] at hfuera ⊢
  omega

/-- In every run of calls, wherever the images are at first and whatever is
drawn, they do not overlap on the screen after the second call of a pair, if
their parent begins at the left edge of the screen. -/
theorem separadas (p : Pantalla) (hpadre : p.padreX = 0) {e e' : Escena}
    {ss : List Sorteos} (hss : ss ≠ [])
    (hrun : Runs.run (mueve p) e ss = some e') (hpar : e'.segunda = false) :
    Disjoint (p.rectangulo e'.IvjUno) (p.rectangulo e'.IvjDos) := by
  rw [← List.dropLast_append_getLast hss, Runs.run_append] at hrun
  obtain ⟨u, -, hlast⟩ := Option.bind_eq_some_iff.mp hrun
  obtain ⟨e'', hmueve, hnil⟩ := Runs.run_cons_eq_some hlast
  cases hnil
  rcases mueve_eq_some hmueve with ⟨-, -, huno, hdos⟩ | ⟨-, hsegunda, -⟩
  · rw [huno]
    exact hdos.disjoint hpadre
  · exact absurd (hpar.symm.trans hsegunda) nofun

/-- The two images of the solo game on a small screen, under a bar of 20. -/
def escenaChica : Escena where
  IvjUno := { width := 26, height := 26, x := 0, y := 0 }
  IvjDos := { width := 25, height := 25, x := 0, y := 30 }
  tvOrden := (0, 0)

def pantallaChica : Pantalla where
  anchoPant := 90
  altoPant := 120
  padreX := 0
  padreY := 20

theorem separadas_pantallaChica :
    ∃ e', Runs.run (mueve pantallaChica) escenaChica
        [{ deX := [10, 25], deY := [20, 8] }, { deX := [40, 60], deY := [0] }] =
        some e' ∧
      Disjoint (pantallaChica.rectangulo e'.IvjUno)
        (pantallaChica.rectangulo e'.IvjDos) := by
  have hfin : (Runs.run (mueve pantallaChica) escenaChica
      [{ deX := [10, 25], deY := [20, 8] }, { deX := [40, 60], deY := [0] }]).map
        (fun e => e.segunda) = some false := by decide
  obtain ⟨e', hrun, hpar⟩ := Option.map_eq_some_iff.mp hfin
  exact ⟨e', hrun,
    separadas pantallaChica rfl (List.cons_ne_nil _ _) hrun hpar⟩

end Tocate.Imagenes
