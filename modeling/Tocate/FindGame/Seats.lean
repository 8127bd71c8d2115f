import Tocate.FindGame.Lobby

/-!
# The second seat

A free search claims the game it has read some time ago, and an invitation or a
link is answered by a blind update.  The second seat is nevertheless exclusive
in every run in which a client asks for it only while the seat is free and
nobody else's request for it is under way.

What is known along a run is who created each game and which device has been
seated in it; both are settled once and for all.
-/

namespace Tocate.Sala

open Cloud

variable {ι : Type*}

structure Mesas (ι : Type*) where
  creador : String → Option String
  asiento : String → Option ι

/-- What is known only grows. -/
structure Mesas.Crece (k k' : Mesas ι) : Prop where
  creador : ∀ g c, k.creador g = some c → k'.creador g = some c
  asiento : ∀ g i, k.asiento g = some i → k'.asiento g = some i

theorem Mesas.Crece.refl (k : Mesas ι) : k.Crece k :=
  ⟨fun _ _ h => h, fun _ _ h => h⟩

theorem Mesas.Crece.trans {k k' k'' : Mesas ι} (h : k.Crece k')
    (h' : k'.Crece k'') : k.Crece k'' :=
  ⟨fun g c hc => h'.creador g c (h.creador g c hc),
    fun g i hi => h'.asiento g i (h.asiento g i hi)⟩

/-- A game that can be joined. -/
def Libre (j : Jugada) : Prop :=
  j.jugadorDosID = "" ∧ j.ganadorID = "" ∧ j.abandonoID = ""

/-- The games on the server agree with what is known. -/
structure Servida (uid : ι → String) (k : Mesas ι) (db : BaseDatos) :
    Prop where
  creador : db.creador = k.creador
  uno : ∀ g j, db.jugadas g = some j → k.creador g = some j.jugadorUnoID
  libre : ∀ g j, db.jugadas g = some j → k.asiento g = none → Libre j
  dos : ∀ g j i, db.jugadas g = some j → k.asiento g = some i →
    j.jugadorDosID = uid i
  ajeno : ∀ g i, k.asiento g = some i →
    ∃ c, k.creador g = some c ∧ c ≠ uid i

/-- A copy of game `g`, perhaps an old one. -/
def Copia (uid : ι → String) (k : Mesas ι) (g : String) (j : Jugada) : Prop :=
  k.creador g = some j.jugadorUnoID ∧
    (j.jugadorDosID = "" ∨
      ∃ i, k.asiento g = some i ∧ j.jugadorDosID = uid i)

/-- A write of device `i` in flight. -/
def EnVuelo (uid : ι → String) (k : Mesas ι) (i : ι) : Escritura → Prop
  | .addJugada _ j => ∃ inv, j = Jugada.nueva (uid i) inv
  | .setJugada g j => k.creador g = some j.jugadorUnoID ∧
      ∃ n, k.asiento g = some n ∧ j.jugadorDosID = uid n
  | .reclamar g j => k.creador g = some j.jugadorUnoID ∧
      j.jugadorDosID = uid i
  | .unirse _ u | .rechazar _ u => u = uid i
  | .deleteJugada _ | .setUser _ _ => True

/-- What is known once a write of device `i` has been confirmed. -/
def Confirmada (uid : ι → String) (k : Mesas ι) (i : ι)
    (p : Escritura × Bool) : Prop :=
  p.2 = true →
    (∀ g, p.1.une = some g → k.asiento g = some i) ∧
      ∀ g, p.1.crea = some g → k.creador g = some (uid i)

/-- A game in which device `i` may start the match. -/
def Mia (uid : ι → String) (k : Mesas ι) (i : ι) (g : String) : Prop :=
  g = "" ∨ k.creador g = some (uid i) ∨ k.asiento g = some i

section Growth

variable {uid : ι → String} {k k' : Mesas ι} {i : ι}

theorem Servida.copia {db : BaseDatos} (h : Servida uid k db) {g : String}
    {j : Jugada} (hj : db.jugadas g = some j) : Copia uid k g j := by
  refine ⟨h.uno g j hj, ?_⟩
  cases hasiento : k.asiento g with
  | none => exact Or.inl (h.libre g j hj hasiento).1
  | some n => exact Or.inr ⟨n, rfl, h.dos g j n hj hasiento⟩

theorem Copia.mono (hle : k.Crece k') {g : String} {j : Jugada}
    (h : Copia uid k g j) : Copia uid k' g j := by
  refine ⟨hle.creador g _ h.1, h.2.imp id ?_⟩
  rintro ⟨n, hn, hdos⟩
  exact ⟨n, hle.asiento g n hn, hdos⟩

theorem EnVuelo.mono (hle : k.Crece k') {w : Escritura}
    (h : EnVuelo uid k i w) : EnVuelo uid k' i w := by
  cases w with
  | addJugada g j => exact h
  | setJugada g j =>
      obtain ⟨huno, n, hn, hdos⟩ := h
      exact ⟨hle.creador g _ huno, n, hle.asiento g n hn, hdos⟩
  | reclamar g j => exact ⟨hle.creador g _ h.1, h.2⟩
  | unirse g u => exact h
  | rechazar g u => exact h
  | deleteJugada g => trivial
  | setUser x l => trivial

theorem Confirmada.mono (hle : k.Crece k') {p : Escritura × Bool}
    (h : Confirmada uid k i p) : Confirmada uid k' i p := by
  intro hok
  obtain ⟨hune, hcrea⟩ := h hok
  exact ⟨fun g hg => hle.asiento g i (hune g hg),
    fun g hg => hle.creador g _ (hcrea g hg)⟩

theorem Mia.mono (hle : k.Crece k') {g : String} (h : Mia uid k i g) :
    Mia uid k' i g :=
  h.imp id (Or.imp (hle.creador g _) (hle.asiento g i))

end Growth

/-! ## A write arrives -/

section Arrival

variable {uid : ι → String} {k : Mesas ι} {i : ι} {db : BaseDatos}

/-- Device `i` is seated in game `g`. -/
def Mesas.sienta (k : Mesas ι) (g : String) (i : ι) : Mesas ι :=
  { k with asiento := Function.update k.asiento g (some i) }

theorem Mesas.crece_sienta {g : String} (h : k.asiento g = none) :
    k.Crece (k.sienta g i) := by
  refine ⟨fun _ _ hc => hc, fun g' n hn => ?_⟩
  have hne : g' ≠ g := by
    rintro rfl
    rw [h] at hn
    exact absurd hn (by simp)
  simp only [Mesas.sienta, Function.update_of_ne hne, hn]

/-- Game `g` is created by `c`. -/
def Mesas.apunta (k : Mesas ι) (g c : String) : Mesas ι :=
  { k with creador := Function.update k.creador g (some c) }

theorem Mesas.crece_apunta {g c : String} (h : k.creador g = none) :
    k.Crece (k.apunta g c) := by
  refine ⟨fun g' d hd => ?_, fun _ _ hn => hn⟩
  have hne : g' ≠ g := by
    rintro rfl
    rw [h] at hd
    exact absurd hd (by simp)
  simp only [Mesas.apunta, Function.update_of_ne hne, hd]

@[simp] theorem Mesas.apunta_self (g c : String) :
    (k.apunta g c).creador g = some c := by
  simp [Mesas.apunta]

theorem Mesas.apunta_ne {g g' c : String} (h : g' ≠ g) :
    (k.apunta g c).creador g' = k.creador g' := by
  simp [Mesas.apunta, h]

@[simp] theorem Mesas.sienta_self (g : String) :
    (k.sienta g i).asiento g = some i := by
  simp [Mesas.sienta]

theorem Mesas.sienta_ne {g g' : String} (h : g' ≠ g) :
    (k.sienta g i).asiento g' = k.asiento g' := by
  simp [Mesas.sienta, h]

/-- The server after a seat has been taken. -/
theorem Servida.sienta (h : Servida uid k db) {g c : String} {j : Jugada}
    (huno : k.creador g = some j.jugadorUnoID) (hdos : j.jugadorDosID = uid i)
    (hc : k.creador g = some c) (hne : c ≠ uid i) :
    Servida uid (k.sienta g i) (db.conJugada g (some j)) := by
  refine ⟨h.creador, ?_, ?_, ?_, ?_⟩
  · intro g' j' hj'
    rcases BaseDatos.conJugada_eq_some hj' with ⟨rfl, hnew⟩ | ⟨-, hold⟩
    · rw [← Option.some.inj hnew]
      exact huno
    · exact h.uno g' j' hold
  · intro g' j' hj' hlibre
    rcases BaseDatos.conJugada_eq_some hj' with ⟨rfl, -⟩ | ⟨hg, hold⟩
    · rw [Mesas.sienta_self] at hlibre
      exact absurd hlibre (by simp)
    · rw [Mesas.sienta_ne hg] at hlibre
      exact h.libre g' j' hold hlibre
  · intro g' j' n hj' hn
    rcases BaseDatos.conJugada_eq_some hj' with ⟨rfl, hnew⟩ | ⟨hg, hold⟩
    · rw [Mesas.sienta_self] at hn
      rw [← Option.some.inj hnew, ← Option.some.inj hn]
      exact hdos
    · rw [Mesas.sienta_ne hg] at hn
      exact h.dos g' j' n hold hn
  · intro g' n hn
    by_cases hg : g' = g
    · subst hg
      rw [Mesas.sienta_self] at hn
      rw [← Option.some.inj hn]
      exact ⟨c, hc, hne⟩
    · rw [Mesas.sienta_ne hg] at hn
      exact h.ajeno g' n hn

/-- The server after a document has been replaced in agreement with what is
known, or taken away. -/
theorem Servida.conJugada (h : Servida uid k db) {g : String}
    {o : Option Jugada}
    (huno : ∀ j, o = some j → k.creador g = some j.jugadorUnoID)
    (hlibre : ∀ j, o = some j → k.asiento g = none → Libre j)
    (hdos : ∀ j n, o = some j → k.asiento g = some n →
      j.jugadorDosID = uid n) : Servida uid k (db.conJugada g o) := by
  refine ⟨h.creador, ?_, ?_, ?_, h.ajeno⟩
  · intro g' j' hj'
    rcases BaseDatos.conJugada_eq_some hj' with ⟨rfl, hnew⟩ | ⟨-, hold⟩
    · exact huno j' hnew
    · exact h.uno g' j' hold
  · intro g' j' hj' hno
    rcases BaseDatos.conJugada_eq_some hj' with ⟨rfl, hnew⟩ | ⟨-, hold⟩
    · exact hlibre j' hnew hno
    · exact h.libre g' j' hold hno
  · intro g' j' n hj' hn
    rcases BaseDatos.conJugada_eq_some hj' with ⟨rfl, hnew⟩ | ⟨-, hold⟩
    · exact hdos j' n hnew hn
    · exact h.dos g' j' n hold hn

/-- The server after a new game has been added. -/
theorem Servida.nueva (h : Servida uid k db) {g inv : String}
    (hno : k.creador g = none) :
    Servida uid (k.apunta g (uid i))
      ((db.conJugada g (some (Jugada.nueva (uid i) inv))).conCreador g
        (uid i)) := by
  have hvacio : k.asiento g = none := by
    cases hasiento : k.asiento g with
    | none => rfl
    | some n =>
        obtain ⟨c, hc, -⟩ := h.ajeno g n hasiento
        rw [hno] at hc
        exact absurd hc (by simp)
  refine ⟨?_, ?_, ?_, ?_, ?_⟩
  · simp only [BaseDatos.conCreador, BaseDatos.conJugada_creador, h.creador,
      Mesas.apunta]
  · intro g' j' hj'
    rw [BaseDatos.conCreador_jugadas] at hj'
    rcases BaseDatos.conJugada_eq_some hj' with ⟨rfl, hnew⟩ | ⟨hg, hold⟩
    · rw [← Option.some.inj hnew]
      exact Mesas.apunta_self g' (uid i)
    · rw [Mesas.apunta_ne hg]
      exact h.uno g' j' hold
  · intro g' j' hj' hlibre
    rw [BaseDatos.conCreador_jugadas] at hj'
    rcases BaseDatos.conJugada_eq_some hj' with ⟨rfl, hnew⟩ | ⟨-, hold⟩
    · rw [← Option.some.inj hnew]
      exact ⟨rfl, rfl, rfl⟩
    · exact h.libre g' j' hold hlibre
  · intro g' j' n hj' hn
    rw [BaseDatos.conCreador_jugadas] at hj'
    rcases BaseDatos.conJugada_eq_some hj' with ⟨rfl, -⟩ | ⟨-, hold⟩
    · exact absurd (hvacio.symm.trans hn) (by simp)
    · exact h.dos g' j' n hold hn
  · intro g' n hn
    have hg : g' ≠ g := by
      rintro rfl
      exact absurd (hvacio.symm.trans hn) (by simp)
    rw [Mesas.apunta_ne hg]
    exact h.ajeno g' n hn

/-- A request for the seat of `g` that finds it free; a whole-document claim
also needs the game to be there. -/
def Encuentra (uid : ι → String) (k : Mesas ι) (db : BaseDatos) (i : ι)
    (w : Escritura) (g : String) : Prop :=
  k.asiento g = none ∧ (∃ c, k.creador g = some c ∧ c ≠ uid i) ∧
    (w.reclamada = some g → db.jugadas g ≠ none)

/-- A request that comes too late for a game that has been deleted. -/
def Tarde (k : Mesas ι) (db : BaseDatos) (w : Escritura) (g : String) : Prop :=
  db.jugadas g = none ∧ k.creador g ≠ none ∧ w.reclamada ≠ some g

/-- What is known after a write: only the seat it asks for is settled by it,
and only a free game gives its seat away. -/
def Asentada (uid : ι → String) (k : Mesas ι) (db : BaseDatos) (i : ι)
    (w : Escritura) (k' : Mesas ι) : Prop :=
  k.Crece k' ∧ Servida uid k' (db.aplicar w).1 ∧
    (∀ g, w.sienta ≠ some g → k'.asiento g = k.asiento g) ∧
    Confirmada uid k' i (w, (db.aplicar w).2) ∧
    ∀ g, w.sienta = some g → (db.aplicar w).2 = true →
      ∃ j, db.jugadas g = some j ∧ Libre j

/-- An update of the second seat arrives. -/
theorem Servida.actualiza {w : Escritura} {g : String} {f : Jugada → Jugada}
    (h : Servida uid k db) (happ : db.aplicar w = db.update g f)
    (huno : ∀ j, (f j).jugadorUnoID = j.jugadorUnoID)
    (hdos : ∀ j, (f j).jugadorDosID = uid i) (hw : w.sienta = some g)
    (hcrea : w.crea = none) (hune : ∀ g', w.une = some g' → g' = g)
    (hasiento : Encuentra uid k db i w g ∨ Tarde k db w g) :
    ∃ k', Asentada uid k db i w k' := by
  unfold Asentada
  rw [happ]
  rcases hg : db.jugadas g with - | j
  · rw [BaseDatos.update_none hg]
    exact ⟨k, .refl k, h, fun _ _ => rfl, nofun, nofun⟩
  · rcases hasiento with ⟨hno, ⟨c, hc, hne⟩, -⟩ | ⟨hfuera, -⟩
    · rw [BaseDatos.update_some hg]
      refine ⟨k.sienta g i, Mesas.crece_sienta hno, h.sienta ?_ (hdos j) hc hne,
        ?_, ?_, ?_⟩
      · rw [huno]
        exact h.uno g j hg
      · intro g' hg'
        exact Mesas.sienta_ne fun heq => hg' (by rw [heq, hw])
      · intro _
        refine ⟨fun g' hg' => ?_, fun g' hg' => ?_⟩
        · rw [hune g' hg']
          exact Mesas.sienta_self g
        · exact absurd (hcrea.symm.trans hg') (by simp)
      · intro g' hg' _
        rw [← Option.some.inj (hw.symm.trans hg')]
        exact ⟨j, hg, h.libre g j hg hno⟩
    · exact absurd (hfuera.symm.trans hg) (by simp)

/-- What holds of every game that is named, where none is. -/
theorem de_ninguna {α : Type*} {p : α → Prop} : ∀ a, none = some a → p a :=
  fun a h => absurd h.symm (Option.some_ne_none a)

theorem Servida.aplicar {w : Escritura} (h : Servida uid k db)
    (hw : EnVuelo uid k i w)
    (hasiento : ∀ g, w.sienta = some g →
      Encuentra uid k db i w g ∨ Tarde k db w g) :
    ∃ k', Asentada uid k db i w k' := by
  cases w with
  | addJugada g j =>
      obtain ⟨inv, rfl⟩ := hw
      unfold Asentada
      cases hcreador : db.creador g with
      | none =>
          have happ : db.aplicar (.addJugada g (Jugada.nueva (uid i) inv)) =
              ((db.conJugada g (some (Jugada.nueva (uid i) inv))).conCreador g
                (uid i), true) := by
            simp only [BaseDatos.aplicar, hcreador, Jugada.nueva]
          rw [h.creador] at hcreador
          rw [happ]
          refine ⟨k.apunta g (uid i), Mesas.crece_apunta hcreador,
            h.nueva hcreador, fun _ _ => rfl, ?_, de_ninguna⟩
          intro _
          refine ⟨de_ninguna, fun g' hg' => ?_⟩
          rw [← Option.some.inj hg']
          exact Mesas.apunta_self g (uid i)
      | some c =>
          have happ : db.aplicar (.addJugada g (Jugada.nueva (uid i) inv)) =
              (db, false) := by
            simp only [BaseDatos.aplicar, hcreador]
          rw [happ]
          exact ⟨k, .refl k, h, fun _ _ => rfl,
            fun hno => absurd hno Bool.false_ne_true, de_ninguna⟩
  | setJugada g j =>
      obtain ⟨huno, n, hn, hdos⟩ := hw
      refine ⟨k, .refl k, h.conJugada ?_ ?_ ?_, fun _ _ => rfl,
        fun _ => ⟨de_ninguna, de_ninguna⟩, de_ninguna⟩
      · intro j' hj'
        rw [← Option.some.inj hj']
        exact huno
      · intro j' _ hno
        exact absurd (hno.symm.trans hn) (by simp)
      · intro j' n' hj' hn'
        rw [← Option.some.inj hj', hdos, Option.some.inj (hn.symm.trans hn')]
  | reclamar g j =>
      obtain ⟨huno, hdos⟩ := hw
      rcases hasiento g rfl with ⟨hno, ⟨c, hc, hne⟩, hesta⟩ | ⟨-, -, htarde⟩
      · refine ⟨k.sienta g i, Mesas.crece_sienta hno,
          h.sienta huno hdos hc hne, ?_, ?_, ?_⟩
        · intro g' hg'
          exact Mesas.sienta_ne fun heq => hg' (by rw [heq]; rfl)
        · intro _
          refine ⟨fun g' hg' => ?_, de_ninguna⟩
          rw [← Option.some.inj hg']
          exact Mesas.sienta_self g
        · intro g' hg' _
          obtain ⟨j', hj'⟩ := Option.ne_none_iff_exists'.mp (hesta rfl)
          rw [← Option.some.inj hg']
          exact ⟨j', hj', h.libre g j' hj' hno⟩
      · exact absurd rfl htarde
  | unirse g u =>
      have happ : db.aplicar (.unirse g u) =
          db.update g fun j => { j with jugadorDosID := u } := rfl
      refine h.actualiza happ (fun _ => rfl) (fun _ => hw) rfl rfl ?_
        (hasiento g rfl)
      exact fun g' hg' => (Option.some.inj hg').symm
  | rechazar g u =>
      have happ : db.aplicar (.rechazar g u) =
          db.update g fun j => { j with jugadorDosID := u, abandonoID := u } :=
        rfl
      exact h.actualiza happ (fun _ => rfl) (fun _ => hw) rfl rfl de_ninguna
        (hasiento g rfl)
  | deleteJugada g =>
      exact ⟨k, .refl k, h.conJugada de_ninguna de_ninguna
        fun j _ hj => absurd hj.symm (Option.some_ne_none j), fun _ _ => rfl,
        fun _ => ⟨de_ninguna, de_ninguna⟩, de_ninguna⟩
  | setUser x l =>
      exact ⟨k, .refl k, ⟨h.creador, h.uno, h.libre, h.dos, h.ajeno⟩,
        fun _ _ => rfl, fun _ => ⟨de_ninguna, de_ninguna⟩, de_ninguna⟩

end Arrival

end Tocate.Sala
