import Tocate.FindGame.Device
import Tocate.Lib.Runs

/-!
# Only one's own waiting game is deleted

`onStop` deletes the game that the one field names, whoever has created it and
whoever has come meanwhile.  The field names a game of the instance, unless it
has been set by a join; and the game waits, unless somebody has sat down before
the deletion arrives.

What is remembered of a run is which device has created each game, and which
devices have the game of a join in their field.
-/

namespace Tocate

/-- The second seat that the write sets: the game, and who sits there. -/
def Escritura.ocupada : Escritura → Option (String × String)
  | .addJugada g j | .setJugada g j | .reclamar g j => some (g, j.jugadorDosID)
  | .unirse g uid | .rechazar g uid => some (g, uid)
  | .deleteJugada _ | .setUser _ _ => none

/-- The second seat of a game changes by a write that sets it. -/
theorem BaseDatos.aplicar_dos {db : BaseDatos} {w : Escritura} {g : String}
    {j : Jugada} (hj : (db.aplicar w).1.jugadas g = some j) :
    db.jugadas g = some j ∨
      (w.ocupada = some (g, j.jugadorDosID) ∧ (db.aplicar w).2 = true) := by
  have hcon : ∀ g' j', (db.conJugada g' (some j')).jugadas g = some j →
      db.jugadas g = some j ∨ (g' = g ∧ j' = j) := by
    intro g' j' h
    rcases conJugada_eq_some h with ⟨rfl, hj'⟩ | ⟨-, hold⟩
    · exact Or.inr ⟨rfl, Option.some.inj hj'⟩
    · exact Or.inl hold
  have hupdate : ∀ g' (f : Jugada → Jugada), (db.update g' f).1.jugadas g = some j →
      db.jugadas g = some j ∨
        (g' = g ∧ (db.update g' f).2 = true ∧ ∃ j', f j' = j) := by
    intro g' f h
    cases hg : db.jugadas g' with
    | none =>
        rw [update_none hg] at h
        exact Or.inl h
    | some j' =>
        rw [update_some hg] at h ⊢
        exact (hcon g' (f j') h).imp_right fun heq => ⟨heq.1, rfl, j', heq.2⟩
  cases w with
  | addJugada g' j' =>
      cases hcreador : db.creador g' with
      | some c =>
          simp only [aplicar, hcreador] at hj
          exact Or.inl hj
      | none =>
          simp only [aplicar, hcreador] at hj
          rcases hcon g' j' hj with hold | ⟨rfl, rfl⟩
          · exact Or.inl hold
          · exact Or.inr ⟨rfl, by simp [aplicar, hcreador]⟩
  | setJugada g' j' =>
      rcases hcon g' j' hj with hold | ⟨rfl, rfl⟩
      · exact Or.inl hold
      · exact Or.inr ⟨rfl, rfl⟩
  | reclamar g' j' =>
      rcases hcon g' j' hj with hold | ⟨rfl, rfl⟩
      · exact Or.inl hold
      · exact Or.inr ⟨rfl, rfl⟩
  | unirse g' u =>
      rcases hupdate g' _ hj with hold | ⟨rfl, hexito, j', rfl⟩
      · exact Or.inl hold
      · exact Or.inr ⟨rfl, hexito⟩
  | rechazar g' u =>
      rcases hupdate g' _ hj with hold | ⟨rfl, hexito, j', rfl⟩
      · exact Or.inl hold
      · exact Or.inr ⟨rfl, hexito⟩
  | deleteJugada g' =>
      rcases conJugada_eq_some hj with ⟨-, hnone⟩ | ⟨-, hold⟩
      · cases hnone
      · exact Or.inl hold
  | setUser x l => exact Or.inl hj

namespace Sala

open Cloud

variable {ι : Type*} [DecidableEq ι]

/-- Which device has created each game, and which devices have the game of a
join in their field. -/
structure Origen (ι : Type*) where
  autor : String → Option ι := fun _ => none
  unida : ι → Bool := fun _ => false

/-- A join sets the field, and so does the reply to a creation. -/
def deduce (s : Estado ι) : Paso ι → Origen ι → Origen ι
  | .event i (.busca e), o =>
      if (s.client i).busca.pide e = none then o
      else { o with unida := Function.update o.unida i true }
  | .arrive i, o =>
      match s.outbox i with
      | .addJugada g _ :: _ =>
          if s.server.creador g = none then
            { o with autor := Function.update o.autor g (some i) }
          else o
      | _ => o
  | .confirm i, o =>
      match s.acks i with
      | (.addJugada _ _, true) :: _ =>
          if (s.client i).busca.caida then o
          else { o with unida := Function.update o.unida i false }
      | _ => o
  | _, o => o

/-- A deletion that arrives is of a game that this instance has created and
that is gone already or waits for its second player. -/
def BorraPropia (p : Estado ι × Origen ι) (a : Paso ι) : Prop :=
  ∀ i ∈ a.arrive?, ∀ w ∈ (p.1.outbox i).head?, ∀ g ∈ w.borrada,
    p.2.autor g = some i ∧
      p.1.server.creador g = some (p.1.client i).busca.uid ∧
      ∀ j ∈ p.1.server.jugadas g, j.jugadorDosID = ""

/-- No game that the event deletes is of a join, and none is full. -/
def BorraBien (p : Estado ι × Origen ι) (i : ι) (e : FindGame.Suceso) : Prop :=
  ∀ g ∈ (p.1.client i).busca.borra e,
    p.2.unida i = false ∧ ∀ j ∈ p.1.server.jugadas g, j.jugadorDosID = ""

/-- `onStop` deletes no game of a join and none that is full; and nobody sits
down in a game whose deletion is in flight. -/
structure Prudente (p : Estado ι × Origen ι) (a : Paso ι) : Prop where
  busca : ∀ x ∈ busca? a, BorraBien p x.1 x.2
  arrive : ∀ i ∈ a.arrive?, ∀ w ∈ (p.1.outbox i).head?, ∀ q ∈ w.ocupada,
    q.2 ≠ "" → (p.1.server.aplicar w).2 = true →
      ∀ n, .deleteJugada q.1 ∉ p.1.outbox n

section Decidable

variable [Fintype ι]

instance (p : Estado ι × Origen ι) (a : Paso ι) : Decidable (BorraPropia p a) :=
  inferInstanceAs (Decidable
    (∀ i ∈ a.arrive?, ∀ w ∈ (p.1.outbox i).head?, ∀ g ∈ w.borrada, _ ∧ _ ∧ _))

instance (p : Estado ι × Origen ι) (i : ι) (e : FindGame.Suceso) :
    Decidable (BorraBien p i e) :=
  inferInstanceAs (Decidable
    (∀ g ∈ (p.1.client i).busca.borra e, _ ∧ ∀ j ∈ p.1.server.jugadas g, _))

instance (p : Estado ι × Origen ι) (a : Paso ι) : Decidable (Prudente p a) :=
  decidable_of_iff (_ ∧ _)
    ⟨fun h => ⟨h.1, h.2⟩, fun h => ⟨h.busca, h.arrive⟩⟩

end Decidable

/-- What the past says agrees with the state. -/
structure Origenes (s : Estado ι) (o : Origen ι) : Prop where
  campo : ∀ i, (s.client i).busca.jugadaId ≠ "" → o.unida i = false →
    o.autor (s.client i).busca.jugadaId = some i
  creada : ∀ g i, o.autor g = some i →
    s.server.creador g = some (s.client i).busca.uid
  envio : ∀ i g j, .addJugada g j ∈ s.outbox i →
    j.jugadorUnoID = (s.client i).busca.uid
  respuesta : ∀ i g j, (.addJugada g j, true) ∈ s.acks i →
    o.autor g = some i
  baja : ∀ i g, .deleteJugada g ∈ s.outbox i → o.autor g = some i ∧
    ∀ j, s.server.jugadas g = some j → j.jugadorDosID = ""

section Steps

variable {s s' : Estado ι} {o : Origen ι} {a : Paso ι}

/-- A game is created once. -/
theorem Origenes.autor (h : Origenes s o) {g : String} {i : ι}
    (hg : o.autor g = some i) : (deduce s a o).autor g = some i := by
  have hcreador := h.creada g i hg
  unfold deduce
  split
  · split
    · exact hg
    · exact hg
  · split
    · split
      next hno =>
        refine (Function.update_of_ne ?_ _ _).trans hg
        rintro rfl
        exact absurd (hcreador.symm.trans hno) nofun
      · exact hg
    · exact hg
  · split
    · split
      · exact hg
      · exact hg
    · exact hg
  · exact hg

/-- A game is created by the `add` that arrives first. -/
theorem deduce_autor {g : String} {i : ι}
    (hg : (deduce s a o).autor g = some i) :
    o.autor g = some i ∨ ∃ j ws, a = .arrive i ∧
      s.outbox i = .addJugada g j :: ws ∧ s.server.creador g = none := by
  cases a with
  | event k e =>
      left
      cases e with
      | busca e =>
          simp only [deduce] at hg
          split at hg
          · exact hg
          · exact hg
      | juega e => exact hg
      | cancelarJugada g' => exact hg
  | arrive k =>
      simp only [deduce] at hg
      split at hg
      next g' j ws hbox =>
        split at hg
        next hno =>
          by_cases heq : g = g'
          · subst heq
            have hk : k = i := by simpa using hg
            subst hk
            exact Or.inr ⟨j, ws, rfl, hbox, hno⟩
          · exact Or.inl ((Function.update_of_ne heq _ _).symm.trans hg)
        · exact Or.inl hg
      · exact Or.inl hg
  | confirm k =>
      left
      simp only [deduce] at hg
      split at hg
      · split at hg
        · exact hg
        · exact hg
      · exact hg
  | deliver k => exact Or.inl hg
  | skip k => exact Or.inl hg

/-- A device's field is set by its own events and replies. -/
theorem deduce_unida_ne {i : ι} (hevento : ∀ e, a ≠ .event i (.busca e))
    (hconfirma : a ≠ .confirm i) :
    (deduce s a o).unida i = o.unida i := by
  cases a with
  | event k e =>
      cases e with
      | busca e =>
          simp only [deduce]
          split
          · rfl
          · refine Function.update_of_ne ?_ _ _
            rintro rfl
            exact hevento e rfl
      | juega e => rfl
      | cancelarJugada g => rfl
  | arrive k =>
      simp only [deduce]
      split
      · split
        · rfl
        · rfl
      · rfl
  | confirm k =>
      simp only [deduce]
      split
      · split
        · rfl
        · refine Function.update_of_ne ?_ _ _
          rintro rfl
          exact hconfirma rfl
      · rfl
  | deliver k => rfl
  | skip k => rfl

/-- The outcome of a write sets the field to a game of the device's own. -/
theorem Origenes.campo_confirma (h : Origenes s o) {i : ι} {w : Escritura}
    {ok : Bool} (hsabe : Sabe s s' i w ok)
    (hid : (s'.client i).busca.jugadaId ≠ "")
    (hunida : (deduce s (.confirm i) o).unida i = false) :
    (deduce s (.confirm i) o).autor (s'.client i).busca.jugadaId = some i := by
  have hmem : (w, ok) ∈ s.acks i := mem_of_eq_cons hsabe.acks
  have hack := FindGame.ack_confirma (s.client i).busca w ok
  rw [hsabe.busca] at hid ⊢
  -- nothing but the reply to a creation touches what is known
  have hdeduce : (ok = true → w.crea = none) ∨
      (s.client i).busca.caida = true → deduce s (.confirm i) o = o := by
    intro hno
    simp only [deduce, hsabe.acks]
    split
    next g j rest hcons =>
      obtain ⟨hcabeza, -⟩ := List.cons_eq_cons.mp hcons
      obtain ⟨rfl, rfl⟩ := Prod.mk.inj hcabeza
      rcases hno with hcrea | hcaida
      · exact absurd (hcrea rfl) nofun
      · rw [if_pos hcaida]
    · rfl
  generalize (s.client i).busca.ack w ok = f' at hack hid ⊢
  cases hack with
  | crea id j => exact h.autor (h.respuesta i id j hmem)
  | entra _ g hune => exact absurd rfl hid
  | borra g => exact absurd rfl hid
  | rechazada g u =>
      rw [hdeduce (Or.inl nofun)] at hunida ⊢
      exact h.campo i hid hunida
  | nada _ _ hno hborra =>
      rw [hdeduce (Or.inl fun hok => (hno hok).2)] at hunida ⊢
      exact h.campo i hid hunida
  | caida _ _ hcaida =>
      rw [hdeduce (Or.inr hcaida)] at hunida ⊢
      exact h.campo i hid hunida

/-- The reply to a creation, or a join, sets the field. -/
theorem Origenes.campo_step (h : Origenes s o)
    (hstep : programa.step s a = some s') (i : ι)
    (hid : (s'.client i).busca.jugadaId ≠ "")
    (hunida : (deduce s a o).unida i = false) :
    (deduce s a o).autor (s'.client i).busca.jugadaId = some i := by
  rcases step_busca hstep i with ⟨e, t, rfl, hat⟩ | ⟨w, ok, rfl, hsabe⟩ |
    ⟨hevento, hconfirma, hajeno⟩
  · have hpide : (s.client i).busca.pide e = none := by
      by_contra hno
      simp [deduce, hno] at hunida
    have hdeduce : deduce s (.event i (.busca e)) o = o := by
      simp only [deduce, hpide, if_true]
    rw [hdeduce] at hunida ⊢
    rw [hat.busca] at hid ⊢
    have hcambio := FindGame.atiende_cambio hat.atiende
    obtain ⟨f', ws, failed⟩ := t
    dsimp only at hcambio hid ⊢
    have hcampo := h.campo i
    cases hcambio with
    | pinvDirecta partidaID hespera => cases hpide
    | linkReception deepLink g hespera hiniciada hg =>
        rcases hg with rfl | hg
        · exact hcampo hid hunida
        · exact absurd (hpide.symm.trans hg) nofun
    | onComplete docs nuevas hespera =>
        simp only [FindGame.pide, hespera] at hpide
        simp only [hpide, Option.getD_none] at hid ⊢
        exact hcampo hid hunida
    | run hdue => exact absurd (FindGame.run_jugadaId _) hid
    | onStop hiniciada =>
        rw [FindGame.onStop_jugadaId] at hid ⊢
        exact hcampo hid hunida
    | _ => exact hcampo hid hunida
  · exact h.campo_confirma hsabe hid hunida
  · have hsame : (deduce s a o).unida i = o.unida i :=
      deduce_unida_ne hevento hconfirma
    rw [hsame] at hunida
    rw [hajeno.busca] at hid ⊢
    exact h.autor (h.campo i hid hunida)

theorem Origenes.baja_step (h : Origenes s o) (hok : Prudente (s, o) a)
    (hstep : programa.step s a = some s') {i : ι} {g : String}
    (hg : .deleteJugada g ∈ s'.outbox i) :
    (deduce s a o).autor g = some i ∧
      ∀ j, s'.server.jugadas g = some j → j.jugadorDosID = "" := by
  rcases step_outbox hstep i _ hg with hold | hajena | ⟨e, t, rfl, hat, hnew⟩
  · obtain ⟨hautor, hvacia⟩ := h.baja i g hold
    refine ⟨h.autor hautor, fun j hj => ?_⟩
    rcases Program.step_flight hstep with ⟨k, w, ws, rfl, hbox, rfl⟩ |
      ⟨hserver, -⟩
    · rcases BaseDatos.aplicar_dos hj with hantes | ⟨hocupada, hexito⟩
      · exact hvacia j hantes
      · by_contra hdos
        have hhead : w ∈ (s.outbox k).head? := by
          rw [hbox]
          rfl
        exact hok.arrive k rfl w hhead _ hocupada hdos hexito i hold
    · rw [hserver] at hj
      exact hvacia j hj
  · exact absurd hajena.borrada nofun
  · have hborra := ((FindGame.atiende_writes hat.atiende).1 _ hnew).borra_eq
    obtain ⟨hunida, hvacia⟩ := hok.busca (i, e) rfl g hborra
    have hserver : s'.server = s.server := by
      rcases Program.step_flight hstep with ⟨_, _, _, heq, -⟩ | ⟨hserver, -⟩
      · cases heq
      · exact hserver
    obtain ⟨rfl, hid, rfl⟩ := FindGame.borra_eq_some hborra
    refine ⟨h.autor (h.campo i hid hunida), fun j hj => ?_⟩
    rw [hserver] at hj
    exact hvacia j hj

theorem Origenes.step (h : Origenes s o) (hok : Prudente (s, o) a)
    (hstep : programa.step s a = some s') : Origenes s' (deduce s a o) := by
  refine ⟨h.campo_step hstep, ?_, ?_, ?_, fun _ _ => h.baja_step hok hstep⟩
  · intro g i hg
    rw [step_uid hstep]
    rcases deduce_autor hg with hold | ⟨j, ws, rfl, hbox, hno⟩
    · exact step_creador hstep (h.creada g i hold)
    · obtain ⟨w, ws', hbox', rfl⟩ := Program.step_arrive hstep
      obtain ⟨rfl, -⟩ := List.cons_eq_cons.mp (hbox.symm.trans hbox')
      rw [← h.envio i g j (mem_of_eq_cons hbox)]
      simp [programa, BaseDatos.aplicar, hno, BaseDatos.conCreador]
  · intro i g j hj
    rw [step_uid hstep]
    rcases step_outbox hstep i _ hj with hold | hajena | ⟨e, t, rfl, hat, hnew⟩
    · exact h.envio i g j hold
    · exact absurd hajena.crea (Option.some_ne_none g)
    · obtain ⟨c, hc, huno, -⟩ :=
        FindGame.creacion_of_addJugada hat.atiende hnew
      rw [huno]
      exact FindGame.creacion_uid hc
  · intro i g j hj
    rcases (step_acks hstep i).2 _ hj with hold | ⟨ws, rfl, hbox, hexito⟩
    · exact h.autor (h.respuesta i g j hold)
    · have hno : s.server.creador g = none := by
        by_contra hsi
        obtain ⟨c, hc⟩ := Option.ne_none_iff_exists'.mp hsi
        simp [BaseDatos.aplicar, hc] at hexito
      simp [deduce, hbox, hno]

omit [DecidableEq ι] in
theorem Origenes.borraPropia (h : Origenes s o) (a : Paso ι) :
    BorraPropia (s, o) a := by
  intro i _ w hw g hg
  obtain rfl := Escritura.borrada_eq hg
  obtain ⟨hautor, hvacia⟩ := h.baja i g (List.mem_of_mem_head? hw)
  exact ⟨hautor, h.creada g i hautor, hvacia⟩

end Steps

/-! ## Runs -/

omit [DecidableEq ι] in
theorem origenes_inicial (uid juego : ι → String)
    (users : String → Option User) :
    Origenes (inicial uid juego users) {} where
  campo := fun _ hid => absurd rfl hid
  creada := nofun
  envio := fun _ _ _ hj => absurd hj List.not_mem_nil
  respuesta := fun _ _ _ hj => absurd hj List.not_mem_nil
  baja := fun _ _ hg => absurd hg List.not_mem_nil

/-- Every deletion is of a game of the instance's own that still waits, in every
run in which the screens stop in time. -/
theorem borra_propia {uid juego : ι → String} {users : String → Option User}
    {acts : List (Paso ι)}
    (hok : Runs.Along (Runs.ghost programa.step deduce) Prudente
      (inicial uid juego users, {}) acts) :
    Runs.Along (Runs.ghost programa.step deduce) BorraPropia
      (inicial uid juego users, {}) acts := by
  refine Runs.Along.of_invariant
    (I := fun p : Estado ι × Origen ι => Origenes p.1 p.2) ?_
    (fun p a h _ => h.borraPropia a) (origenes_inicial uid juego users) hok
  rintro p a q h hok hstep
  obtain ⟨hstep', hghost⟩ := Runs.ghost_eq_some hstep
  rw [hghost]
  exact h.step hok hstep'

/-- Nobody comes, and `a` leaves. -/
theorem borra_propia_seVa :
    (Runs.run (Runs.ghost programa.step deduce)
      (inicial deTres (fun _ => "g") fun _ => none, {})
      (creaAna ++ [.event .ana (.busca .onStop), .arrive .ana])).isSome = true ∧
    Runs.Along (Runs.ghost programa.step deduce) BorraPropia
      (inicial deTres (fun _ => "g") fun _ => none, {})
      (creaAna ++ [.event .ana (.busca .onStop), .arrive .ana]) :=
  ⟨by decide, borra_propia (by decide)⟩

/-- `a` invites `b`, who accepts and leaves before he is told that he is in. -/
def aceptaYSale : List (Paso (Trio)) :=
  [.event .ana (.busca (.onCreate (.Invita "b" "g"))), .arrive .ana, .confirm .ana,
    .event .blas (.busca (.onCreate (.pinvDirecta "g"))),
    .event .blas (.busca .onStart), .event .blas (.busca .onStop), .arrive .blas,
    .arrive .blas]

/-- `b` deletes the game of `a`, with both players seated. -/
theorem borra_ajena :
    ¬Runs.Along (Runs.ghost programa.step deduce) BorraPropia
      (inicial deTres (fun _ => "g") fun _ => none, {}) aceptaYSale := by
  decide

end Sala

end Tocate
