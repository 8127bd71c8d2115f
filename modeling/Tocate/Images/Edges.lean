import Tocate.Images.Loops

/-!
# Whether a moved image stays within the screen

The range of the X loop ends where `imagen0` would touch the right edge of the
screen, but it is `imagen1` that is put there.
-/

namespace Tocate.Imagenes

/-- The image is within the width of the screen, when its left edge is at
`x`. -/
def EnAnchura (p : Pantalla) (x : ℤ) (v : ImageView) : Prop :=
  0 ≤ x ∧ x + v.width ≤ p.anchoPant

/-- No call `moverImangen(imagen0, imagen1)` puts `imagen1` beyond an edge, with
the places counted from `padre` pixels inside the screen.  The place is given
before the Y loop, so it does not matter whether that loop ends. -/
def SeQueda (p : Pantalla) (padre : ℤ) (imagen0 imagen1 : ImageView) : Prop :=
  ∀ s v o, moverImangen p imagen0 imagen1 s = some (v, o) →
    EnAnchura p (v.x + padre) v

/-- There is no place beyond the edge for the X loop to draw: `imagen1` is not
wider than `imagen0`, or `imagen0` stands in the way. -/
def Cabe (p : Pantalla) (padre : ℤ) (imagen0 imagen1 : ImageView) : Prop :=
  let location := p.getLocationOnScreen imagen0
  imagen1.width + padre ≤ imagen0.width ∨
    (p.anchoPant < location.1 + 2 * imagen0.width ∧
      location.1 ≤ max (imagen1.width : ℤ) (p.anchoPant - padre + 1))

variable {p : Pantalla} {padre : ℤ} {imagen0 imagen1 : ImageView}

/-- Whatever is drawn is within the edges, if there is no place beyond them. -/
theorem Cabe.seQueda (h : Cabe p padre imagen0 imagen1) (hpadre : 0 ≤ padre) :
    SeQueda p padre imagen0 imagen1 := by
  intro s v o hmueve
  have hapartada := apartada_of_moverImangen hmueve
  have hancho : v.width = imagen1.width :=
    congrArg Medidas.width hapartada.medidas
  have hx0 := hapartada.x_nonneg
  have hxle := hapartada.x_le
  have hxfuera := hapartada.x_fuera
  constructor
  · exact Int.add_nonneg hx0 hpadre
  · rw [hancho]
    unfold Cabe at h
    dsimp only at h
    omega

/-- The X loop has a number to end on from which `imagen1` reaches beyond the
edge, unless it is not wider than `imagen0` or `imagen0` is in the way. -/
theorem exists_x_fuera (h : Sorteable p imagen0.toMedidas)
    (hmayor : ¬imagen1.width + padre ≤ imagen0.width)
    (hlado : ¬(p.anchoPant <
        (p.getLocationOnScreen imagen0).1 + 2 * imagen0.width ∧
      (p.getLocationOnScreen imagen0).1 ≤
        max (imagen1.width : ℤ) (p.anchoPant - padre + 1))) :
    ∃ x : ℤ, (0 ≤ x ∧ x ≤ p.anchoPant - imagen0.width) ∧
      (x < (p.getLocationOnScreen imagen0).1 - imagen1.width ∨
        (p.getLocationOnScreen imagen0).1 + imagen0.width ≤ x) ∧
      p.anchoPant < x + padre + imagen1.width := by
  have hancho := h.width_le
  by_cases hderecha :
      (p.getLocationOnScreen imagen0).1 + 2 * imagen0.width ≤ p.anchoPant
  · -- the last place of the range, to the right of `imagen0`
    refine ⟨p.anchoPant - imagen0.width, ?_⟩
    omega
  · -- the first place beyond the edge, to the left of `imagen0`
    refine ⟨max 0 (p.anchoPant - imagen1.width - padre + 1), ?_⟩
    omega

/-- Where there is a place beyond the edge, some draw reaches it. -/
theorem SeQueda.cabe (h : SeQueda p padre imagen0 imagen1)
    (hsorteable : Sorteable p imagen0.toMedidas) :
    Cabe p padre imagen0 imagen1 := by
  by_contra hno
  unfold Cabe at hno
  dsimp only at hno
  obtain ⟨hmayor, hlado⟩ := not_or.mp hno
  obtain ⟨x, hx, hxfuera, hborde⟩ :=
    exists_x_fuera hsorteable hmayor hlado
  have hapartada : Apartada p imagen0 imagen1 { imagen1 with x := x } :=
    ⟨rfl, hx.1, hx.2, hxfuera⟩
  obtain ⟨s, v, o, hmueve, hvx⟩ := moverImangen_of_apartada hapartada
  have hdentro := (h s v o hmueve).2
  have hancho : v.width = imagen1.width :=
    congrArg Medidas.width (apartada_of_moverImangen hmueve).medidas
  rw [hvx, hancho] at hdentro
  dsimp only at hdentro
  omega

theorem seQueda_iff (h : Sorteable p imagen0.toMedidas) (hpadre : 0 ≤ padre) :
    SeQueda p padre imagen0 imagen1 ↔ Cabe p padre imagen0 imagen1 :=
  ⟨fun hqueda => hqueda.cabe h, fun hcabe => hcabe.seQueda hpadre⟩

/-- Whatever is drawn, the moved image is within the width of the screen by the
place that it is given exactly when there is no place beyond the edge to draw,
and so it is by its place on the screen, with the offset of its parent. -/
theorem en_anchura_iff (p : Pantalla) (imagen0 imagen1 : ImageView)
    (h : Sorteable p imagen0.toMedidas) :
    ((∀ s v o, moverImangen p imagen0 imagen1 s = some (v, o) →
        EnAnchura p v.x v) ↔ Cabe p 0 imagen0 imagen1) ∧
    (0 ≤ p.padreX →
      ((∀ s v o, moverImangen p imagen0 imagen1 s = some (v, o) →
          EnAnchura p (p.getLocationOnScreen v).1 v) ↔
        Cabe p p.padreX imagen0 imagen1)) := by
  constructor
  · have hiff : SeQueda p 0 imagen0 imagen1 ↔ Cabe p 0 imagen0 imagen1 :=
      seQueda_iff h (Int.le_refl 0)
    unfold SeQueda at hiff
    simpa only [Int.add_zero] using hiff
  · intro hpadre
    exact seQueda_iff h hpadre

/-- `IvjDos` beside `fotoPerfil`, which is wider. -/
theorem en_anchura_segunda :
    Sorteable vertical (fotoPerfil 3) ∧
      ∀ s v o, moverImangen vertical
          { fotoPerfil 3 with x := 200, y := 500 }
          { IvjDos 3 with x := 0, y := 0 } s = some (v, o) →
        EnAnchura vertical v.x v := by
  have hsorteable : Sorteable vertical (fotoPerfil 3) := ⟨by decide, by decide⟩
  have hcabe : Cabe vertical 0 { fotoPerfil 3 with x := 200, y := 500 }
      { IvjDos 3 with x := 0, y := 0 } := Or.inl (by decide)
  exact ⟨hsorteable, (en_anchura_iff vertical _ _ hsorteable).1.mpr hcabe⟩

/-- `fotoPerfil` beside `IvjDos`: all bounds are positive, and the last place of
the range leaves it twelve pixels beyond the edge. -/
theorem fuera_de_la_pantalla :
    Sorteable vertical (fotoPerfil 3) ∧ Sorteable vertical (IvjDos 3) ∧
      ∃ s v tvOrden, moverImangen vertical { IvjDos 3 with x := 0, y := 0 }
          { fotoPerfil 3 with x := 400, y := 400 } s = some (v, some tvOrden) ∧
        v.x = 780 ∧ v.width = 312 ∧ vertical.anchoPant = 1080 ∧
        ¬EnAnchura vertical v.x v ∧
        ¬EnAnchura vertical (vertical.getLocationOnScreen v).1 v := by
  refine ⟨⟨by decide, by decide⟩, ⟨by decide, by decide⟩,
    { deX := [780], deY := [800] }, { fotoPerfil 3 with x := 780, y := 800 },
    (0, 350), by decide, rfl, rfl, rfl, ?_, ?_⟩
  · exact fun h => absurd h.2 (by decide)
  · exact fun h => absurd h.2 (by decide)

end Tocate.Imagenes
