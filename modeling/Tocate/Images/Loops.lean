import Tocate.Images.Moves

/-!
# Whether the loops of a move can end

A loop of `moverImangen` ends on a number that puts `imagen1` beside `imagen0`.
Its range shrinks with `imagen0`, and with both images the part of it that is
refused grows, so on a small screen there may be no such number.
-/

namespace Tocate.Imagenes

/-- A number that the loop draws ends it. -/
def Acaba (maximo rangomin rangomax : ℤ) : Prop :=
  ∃ ran, (0 ≤ ran ∧ ran ≤ maximo) ∧ stop ran rangomin rangomax ≠ 0

/-- Both loops of the call `moverImangen(imagen0, imagen1)` can end. -/
def Acaban (p : Pantalla) (imagen0 imagen1 : ImageView) : Prop :=
  Acaba (p.anchoPant - imagen0.width)
      ((p.getLocationOnScreen imagen0).1 - imagen1.width)
      ((p.getLocationOnScreen imagen0).1 + imagen0.width) ∧
    Acaba (p.altoPant - 2 * imagen0.height)
      ((p.getLocationOnScreen imagen0).2 - imagen1.height)
      ((p.getLocationOnScreen imagen0).2 + imagen0.height)

/-- The loops of the next call. -/
def Escena.Acaban (p : Pantalla) (e : Escena) : Prop :=
  if e.segunda then Imagenes.Acaban p e.IvjUno e.IvjDos
  else Imagenes.Acaban p e.IvjDos e.IvjUno

/-- The bounds that the loops pass to `nextInt`, when `imagen0` has these
measures, are positive. -/
structure Sorteable (p : Pantalla) (imagen0 : Medidas) : Prop where
  ancho : 0 < bound 0 (p.anchoPant - imagen0.width)
  alto : 0 < bound 0 (p.altoPant - 2 * imagen0.height)

/-- The image is on the screen. -/
structure EnPantalla (p : Pantalla) (v : ImageView) : Prop where
  x_nonneg : 0 ≤ (p.getLocationOnScreen v).1
  x_le : (p.getLocationOnScreen v).1 + v.width ≤ p.anchoPant
  y_nonneg : 0 ≤ (p.getLocationOnScreen v).2
  y_le : (p.getLocationOnScreen v).2 + v.height ≤ p.altoPant

/-- The images, of these measures, before the first call. -/
structure Inicial (p : Pantalla) (uno dos : Medidas) (e : Escena) : Prop where
  primera : e.segunda = false
  uno : e.IvjUno.toMedidas = uno
  dos : e.IvjDos.toMedidas = dos
  unoEnPantalla : EnPantalla p e.IvjUno
  dosEnPantalla : EnPantalla p e.IvjDos

/-- The screen has room for both images and for the one that is looked at once
more, and twice more down the screen, where the range of the loop is shorter.
The second call can do without where the parent begins further from the edge
than `IvjDos` is wide or high, since there is room for `IvjDos` before it. -/
structure Holgada (p : Pantalla) (uno dos : Medidas) : Prop where
  primeraX : dos.width = 0 ∨ 2 * dos.width + uno.width ≤ p.anchoPant
  primeraY : dos.height = 0 ∨ 3 * dos.height + uno.height ≤ p.altoPant
  segundaX : dos.width < p.padreX ∨ 2 * uno.width + dos.width ≤ p.anchoPant
  segundaY : dos.height < p.padreY ∨ 3 * uno.height + dos.height ≤ p.altoPant

/-! ## One loop -/

/-- Some sequence of draws ends the loop. -/
theorem acaba_iff_sortea {maximo rangomin rangomax : ℤ} :
    Acaba maximo rangomin rangomax ↔
      ∃ sorteos, (sortea maximo rangomin rangomax sorteos).isSome = true := by
  unfold sortea
  rw [Sampling.exists_reject_isSome_iff]
  constructor
  · rintro ⟨ran, ⟨h0, hle⟩, hstop⟩
    exact ⟨ran.toNat, ran, funcionAleatorio_toNat h0 hle, hstop⟩
  · rintro ⟨sorteo, ran, hran, hstop⟩
    exact ⟨ran, funcionAleatorio_eq_some hran, hstop⟩

/-- If any number ends the loop, the smallest or the greatest one does. -/
theorem acaba_iff {maximo rangomin rangomax : ℤ} (h : 0 ≤ maximo) :
    Acaba maximo rangomin rangomax ↔ 0 < rangomin ∨ rangomax ≤ maximo := by
  constructor
  · rintro ⟨ran, ⟨h0, hle⟩, hstop⟩
    rcases stop_ne_zero_iff.mp hstop with hmin | hmax
    · exact Or.inl (Int.lt_of_le_of_lt h0 hmin)
    · exact Or.inr (Int.le_trans hmax hle)
  · rintro (hmin | hmax)
    · exact ⟨0, ⟨Int.le_refl 0, h⟩, stop_ne_zero_iff.mpr (Or.inl hmin)⟩
    · exact ⟨maximo, ⟨h, Int.le_refl maximo⟩,
        stop_ne_zero_iff.mpr (Or.inr hmax)⟩

/-- A call comes to its end on some draws exactly when both its loops can. -/
theorem acaban_iff_moverImangen {p : Pantalla} {imagen0 imagen1 : ImageView} :
    Acaban p imagen0 imagen1 ↔
      ∃ s v tvOrden,
        moverImangen p imagen0 imagen1 s = some (v, some tvOrden) := by
  constructor
  · rintro ⟨⟨x, ⟨hx0, hxle⟩, hxstop⟩, y, ⟨hy0, hyle⟩, hystop⟩
    have hcolocada : Colocada p imagen0 imagen1
        { imagen1 with x := x, y := y } :=
      ⟨⟨rfl, hx0, hxle, stop_ne_zero_iff.mp hxstop⟩, hy0, hyle,
        stop_ne_zero_iff.mp hystop⟩
    obtain ⟨s, tvOrden, h⟩ := moverImangen_of_colocada hcolocada
    exact ⟨s, _, tvOrden, h⟩
  · rintro ⟨s, v, tvOrden, hv⟩
    have hcolocada := colocada_of_moverImangen hv
    exact ⟨⟨v.x, ⟨hcolocada.x_nonneg, hcolocada.x_le⟩,
        stop_ne_zero_iff.mpr hcolocada.x_fuera⟩,
      v.y, ⟨hcolocada.y_nonneg, hcolocada.y_le⟩,
        stop_ne_zero_iff.mpr hcolocada.y_fuera⟩

section

variable {p : Pantalla} {uno dos : Medidas}

theorem Sorteable.width_le (h : Sorteable p uno) :
    (uno.width : ℤ) ≤ p.anchoPant := by
  have hancho := h.ancho
  unfold bound at hancho
  omega

theorem Sorteable.height_le (h : Sorteable p uno) :
    2 * (uno.height : ℤ) ≤ p.altoPant := by
  have halto := h.alto
  unfold bound at halto
  omega

/-- Both loops of a call can end when the place of `imagen0` leaves room on one
of its sides, and above or below it. -/
theorem acaban_iff_sitio {imagen0 imagen1 : ImageView}
    (h : Sorteable p imagen0.toMedidas) :
    Acaban p imagen0 imagen1 ↔
      (0 < (p.getLocationOnScreen imagen0).1 - imagen1.width ∨
        (p.getLocationOnScreen imagen0).1 + imagen0.width ≤
          p.anchoPant - imagen0.width) ∧
      (0 < (p.getLocationOnScreen imagen0).2 - imagen1.height ∨
        (p.getLocationOnScreen imagen0).2 + imagen0.height ≤
          p.altoPant - 2 * imagen0.height) :=
  and_congr (acaba_iff (Int.sub_nonneg_of_le h.width_le))
    (acaba_iff (Int.sub_nonneg_of_le h.height_le))

/-! ## Room enough -/

/-- The images keep their measures, and the one that a first call has moved is
where the loops have put it. -/
structure Movida (uno dos : Medidas) (e : Escena) : Prop where
  uno : e.IvjUno.toMedidas = uno
  dos : e.IvjDos.toMedidas = dos
  x_nonneg : e.segunda = true → 0 ≤ e.IvjUno.x
  y_nonneg : e.segunda = true → 0 ≤ e.IvjUno.y

theorem Inicial.movida {e : Escena} (h : Inicial p uno dos e) :
    Movida uno dos e :=
  ⟨h.uno, h.dos, fun hsegunda => absurd (h.primera.symm.trans hsegunda) nofun,
    fun hsegunda => absurd (h.primera.symm.trans hsegunda) nofun⟩

theorem Movida.mueve {e e' : Escena} {s : Sorteos} (h : Movida uno dos e)
    (hmueve : mueve p e s = some e') : Movida uno dos e' := by
  rcases mueve_eq_some hmueve with ⟨-, hprimera, huno, hdos⟩ |
    ⟨-, -, hdos, huno⟩
  · refine ⟨(congrArg _ huno).trans h.uno, hdos.medidas.trans h.dos, ?_, ?_⟩
    · exact fun hsegunda => absurd (hprimera.symm.trans hsegunda) nofun
    · exact fun hsegunda => absurd (hprimera.symm.trans hsegunda) nofun
  · exact ⟨huno.medidas.trans h.uno, (congrArg _ hdos).trans h.dos,
      fun _ => huno.x_nonneg, fun _ => huno.y_nonneg⟩

/-- With room enough every call can end, wherever its image has been put. -/
theorem Movida.acaban {e : Escena} (h : Movida uno dos e)
    (huno : Sorteable p uno) (hdos : Sorteable p dos)
    (hholgada : Holgada p uno dos) : e.Acaban p := by
  obtain ⟨rfl, rfl, hx, hy⟩ := h
  obtain ⟨hpx, hpy, hsx, hsy⟩ := hholgada
  have huw := huno.width_le
  have huh := huno.height_le
  have hdw := hdos.width_le
  have hdh := hdos.height_le
  unfold Escena.Acaban
  split
  next hsegunda =>
    have hx0 := hx hsegunda
    have hy0 := hy hsegunda
    rw [acaban_iff_sitio huno]
    simp only [Pantalla.getLocationOnScreen]
    omega
  next =>
    rw [acaban_iff_sitio hdos]
    simp only [Pantalla.getLocationOnScreen]
    omega

/-! ## Too little room -/

/-- An image of these measures at a place of the screen. -/
def enLugar (p : Pantalla) (m : Medidas) (x y : ℤ) : ImageView :=
  { m with x := x - p.padreX, y := y - p.padreY }

@[simp] theorem getLocationOnScreen_enLugar (m : Medidas) (x y : ℤ) :
    p.getLocationOnScreen (enLugar p m x y) = (x, y) := by
  simp only [Pantalla.getLocationOnScreen, enLugar, Int.sub_add_cancel]

/-- `IvjDos` at a place of the screen, `IvjUno` in the corner. -/
def escenaEn (p : Pantalla) (uno dos : Medidas) (x y : ℤ) : Escena where
  IvjUno := enLugar p uno 0 0
  IvjDos := enLugar p dos x y
  tvOrden := (0, 0)

theorem enPantalla_enLugar {m : Medidas} {x y : ℤ}
    (hx : 0 ≤ x ∧ x + m.width ≤ p.anchoPant)
    (hy : 0 ≤ y ∧ y + m.height ≤ p.altoPant) :
    EnPantalla p (enLugar p m x y) := by
  have hloc := getLocationOnScreen_enLugar (p := p) m x y
  refine ⟨?_, ?_, ?_, ?_⟩
  · rw [hloc]
    exact hx.1
  · rw [hloc]
    exact hx.2
  · rw [hloc]
    exact hy.1
  · rw [hloc]
    exact hy.2

theorem inicial_escenaEn {x y : ℤ} (huno : Sorteable p uno)
    (hx : 0 ≤ x ∧ x + dos.width ≤ p.anchoPant)
    (hy : 0 ≤ y ∧ y + dos.height ≤ p.altoPant) :
    Inicial p uno dos (escenaEn p uno dos x y) := by
  have huw := huno.width_le
  have huh := huno.height_le
  exact ⟨rfl, rfl, rfl,
    enPantalla_enLugar ⟨Int.le_refl 0, by omega⟩ ⟨Int.le_refl 0, by omega⟩,
    enPantalla_enLugar hx hy⟩

/-- One direction of a first call, with sizes `a` and `b` of the images and a
range that is shorter than the screen by `m`: from some place of `IvjDos` it can
leave `IvjUno` at a distance of `b - padre` from the edge. -/
theorem alcanzable (extent m a b : ℤ) {padre : ℤ} (ha : 0 ≤ a)
    (hm : b ≤ m ∧ m ≤ 2 * b) (hle : m ≤ extent)
    (hholgura : b = 0 ∨ m + b + a ≤ extent) (hpadre : 0 ≤ padre)
    (hcerca : padre ≤ b) :
    ∃ loc, (0 ≤ loc ∧ loc + b ≤ extent) ∧ b - padre ≤ extent - m ∧
      (b - padre < loc - a ∨ loc + b ≤ b - padre) := by
  rcases Int.lt_or_eq_of_le hpadre with hpos | rfl
  · refine ⟨extent - b, ?_⟩
    omega
  · refine ⟨0, ?_⟩
    omega

/-- Wherever `IvjDos` is at first, there is room beside it only if there is room
for both images. -/
theorem holgura_primera (huno : Sorteable p uno) (hdos : Sorteable p dos)
    (hacaban : ∀ e, Inicial p uno dos e → e.Acaban p) :
    (dos.width = 0 ∨ 2 * dos.width + uno.width ≤ p.anchoPant) ∧
      (dos.height = 0 ∨ 3 * dos.height + uno.height ≤ p.altoPant) := by
  have hdw := hdos.width_le
  have hdh := hdos.height_le
  have hsitio : ∀ x y : ℤ, (0 ≤ x ∧ x + dos.width ≤ p.anchoPant) →
      (0 ≤ y ∧ y + dos.height ≤ p.altoPant) →
      (0 < x - uno.width ∨ x + dos.width ≤ p.anchoPant - dos.width) ∧
        (0 < y - uno.height ∨ y + dos.height ≤ p.altoPant - 2 * dos.height) := by
    intro x y hx hy
    have h : Acaban p (enLugar p dos x y) (enLugar p uno 0 0) :=
      hacaban _ (inicial_escenaEn huno hx hy)
    rw [acaban_iff_sitio hdos, getLocationOnScreen_enLugar] at h
    exact h
  -- the first place that leaves no room on its other side
  constructor
  · have h := hsitio (max 0 (p.anchoPant - 2 * dos.width + 1)) 0
    omega
  · have h := hsitio 0 (max 0 (p.altoPant - 3 * dos.height + 1))
    omega

/-- With room for the first call, it can leave `IvjUno` at these distances from
the edges. -/
theorem exists_primera (padreX padreY : ℤ) (huno : Sorteable p uno)
    (hdos : Sorteable p dos)
    (hx : dos.width = 0 ∨ 2 * dos.width + uno.width ≤ p.anchoPant)
    (hy : dos.height = 0 ∨ 3 * dos.height + uno.height ≤ p.altoPant)
    (hpadreX : 0 ≤ padreX ∧ padreX ≤ dos.width)
    (hpadreY : 0 ≤ padreY ∧ padreY ≤ dos.height) :
    ∃ e s e', Inicial p uno dos e ∧ mueve p e s = some e' ∧
      e'.segunda = true ∧ e'.IvjDos.toMedidas = dos ∧
      e'.IvjUno =
        { uno with x := dos.width - padreX, y := dos.height - padreY } := by
  obtain ⟨x, hxloc, hxle, hxfuera⟩ := alcanzable p.anchoPant dos.width
    uno.width dos.width (by omega) (by omega) hdos.width_le (by omega)
    hpadreX.1 hpadreX.2
  obtain ⟨y, hyloc, hyle, hyfuera⟩ := alcanzable p.altoPant
    (2 * dos.height) uno.height dos.height (by omega) (by omega)
    hdos.height_le (by omega) hpadreY.1 hpadreY.2
  have hcolocada : Colocada p (escenaEn p uno dos x y).IvjDos
      (escenaEn p uno dos x y).IvjUno
      { uno with x := dos.width - padreX, y := dos.height - padreY } := by
    refine ⟨⟨rfl, by dsimp only; omega, hxle, ?_⟩, by dsimp only; omega, hyle,
      ?_⟩
    · simp only [escenaEn, getLocationOnScreen_enLugar]
      exact hxfuera
    · simp only [escenaEn, getLocationOnScreen_enLugar]
      exact hyfuera
  obtain ⟨s, tvOrden, hmueve⟩ := moverImangen_of_colocada hcolocada
  have hprimera : (escenaEn p uno dos x y).segunda = false := rfl
  refine ⟨escenaEn p uno dos x y, s,
    { IvjUno := { uno with x := dos.width - padreX, y := dos.height - padreY }
      IvjDos := enLugar p dos x y
      tvOrden := tvOrden
      segunda := true },
    inicial_escenaEn huno hxloc hyloc, ?_, rfl, rfl, rfl⟩
  simp only [mueve, hprimera, Bool.false_eq_true, if_false, hmueve]
  rfl

/-- The second call finds room beside what the first one has left near the
edges. -/
theorem sitio_segunda (padreX padreY : ℤ) (huno : Sorteable p uno)
    (hdos : Sorteable p dos)
    (hacaban : ∀ e ss e', Inicial p uno dos e →
      Runs.run (mueve p) e ss = some e' → e'.Acaban p)
    (hpadreX : 0 ≤ padreX ∧ padreX ≤ dos.width)
    (hpadreY : 0 ≤ padreY ∧ padreY ≤ dos.height) :
    (padreX < p.padreX ∨
      dos.width - padreX + p.padreX + 2 * uno.width ≤ p.anchoPant) ∧
    (padreY < p.padreY ∨
      dos.height - padreY + p.padreY + 3 * uno.height ≤ p.altoPant) := by
  obtain ⟨hx, hy⟩ := holgura_primera huno hdos
    fun e he => hacaban e [] e he rfl
  obtain ⟨e, s, e', hinicial, hmueve, hsegunda, hdos', huno'⟩ :=
    exists_primera padreX padreY huno hdos hx hy hpadreX hpadreY
  have hrun : Runs.run (mueve p) e [s] = some e' := by
    rw [Runs.run_cons, hmueve]
    rfl
  have h := hacaban e [s] e' hinicial hrun
  rw [Escena.Acaban, if_pos hsegunda, huno', acaban_iff_sitio huno] at h
  have hw : e'.IvjDos.width = dos.width := congrArg Medidas.width hdos'
  have hh : e'.IvjDos.height = dos.height := congrArg Medidas.height hdos'
  simp only [Pantalla.getLocationOnScreen, hw, hh] at h
  omega

end

/-! ## Runs -/

/-- Both loops of every call can end, in every run of calls from wherever the
images are on the screen at first, exactly when the screen has room enough. -/
theorem acaban_iff_holgada (p : Pantalla) (uno dos : Medidas)
    (hpadre : 0 ≤ p.padreX ∧ 0 ≤ p.padreY) (huno : Sorteable p uno)
    (hdos : Sorteable p dos) :
    (∀ e ss e', Inicial p uno dos e → Runs.run (mueve p) e ss = some e' →
      e'.Acaban p) ↔ Holgada p uno dos := by
  constructor
  · intro hacaban
    obtain ⟨hx, hy⟩ := holgura_primera huno hdos
      fun e he => hacaban e [] e he rfl
    refine ⟨hx, hy, ?_, ?_⟩
    · by_contra hno
      have h := (sitio_segunda p.padreX 0 huno hdos hacaban (by omega)
        (by omega)).1
      omega
    · by_contra hno
      have h := (sitio_segunda 0 p.padreY huno hdos hacaban (by omega)
        (by omega)).2
      omega
  · intro hholgada e ss e' hinicial hrun
    have hmovida : Movida uno dos e' :=
      Runs.invariant_of_step (fun e s e' he hmueve => he.mueve hmueve)
        hinicial.movida hrun
    exact hmovida.acaban huno hdos hholgada

/-- `fotoPerfil`, of 104 by 104, and `IvjDos`, of 100 by 100, on a screen of
`escala` pixels to the unit. -/
def fotoPerfil (escala : ℕ) : Medidas :=
  { width := 104 * escala, height := 104 * escala }

def IvjDos (escala : ℕ) : Medidas :=
  { width := 100 * escala, height := 100 * escala }

def vertical : Pantalla where
  anchoPant := 1080
  altoPant := 1920
  padreX := 0
  padreY := 200

theorem acaban_vertical :
    Holgada vertical (fotoPerfil 3) (IvjDos 3) ∧
      ∀ e ss e', Inicial vertical (fotoPerfil 3) (IvjDos 3) e →
        Runs.run (mueve vertical) e ss = some e' → e'.Acaban vertical := by
  have hholgada : Holgada vertical (fotoPerfil 3) (IvjDos 3) :=
    ⟨by decide, by decide, by decide, by decide⟩
  exact ⟨hholgada, (acaban_iff_holgada vertical (fotoPerfil 3) (IvjDos 3)
    (by decide) ⟨by decide, by decide⟩ ⟨by decide, by decide⟩).mpr hholgada⟩

/-- A telephone that is held sideways, with both images where the layout puts
them. -/
def apaisada : Pantalla where
  anchoPant := 1280
  altoPant := 720
  padreX := 0
  padreY := 130

def escenaApaisada : Escena where
  IvjUno := { fotoPerfil 2 with x := 0, y := 0 }
  IvjDos := { IvjDos 2 with x := 0, y := 0 }
  tvOrden := (0, 0)

/-- The first call of the game does not end, whatever is drawn. -/
theorem no_acaba_apaisada :
    Sorteable apaisada (fotoPerfil 2) ∧ Sorteable apaisada (IvjDos 2) ∧
      Inicial apaisada (fotoPerfil 2) (IvjDos 2) escenaApaisada ∧
      ¬escenaApaisada.Acaban apaisada ∧
      ∀ s, mueve apaisada escenaApaisada s = none := by
  have hdos : Sorteable apaisada (IvjDos 2) := ⟨by decide, by decide⟩
  have hno : ¬Acaban apaisada escenaApaisada.IvjDos escenaApaisada.IvjUno := by
    rw [acaban_iff_sitio hdos]
    decide
  refine ⟨⟨by decide, by decide⟩, hdos, ⟨rfl, rfl, rfl, ?_, ?_⟩, hno,
    fun s => ?_⟩
  · exact ⟨by decide, by decide, by decide, by decide⟩
  · exact ⟨by decide, by decide, by decide, by decide⟩
  · cases h : mueve apaisada escenaApaisada s with
    | none => rfl
    | some e' =>
        rcases mueve_eq_some h with ⟨hsegunda, -⟩ | ⟨-, -, -, hcolocada⟩
        · cases hsegunda
        · obtain ⟨t, tvOrden, ht⟩ := moverImangen_of_colocada hcolocada
          exact absurd (acaban_iff_moverImangen.mpr ⟨t, _, tvOrden, ht⟩) hno

end Tocate.Imagenes
