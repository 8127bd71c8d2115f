import Tocate.FindGame.Deletions
import Tocate.FindGame.Listeners

/-!
# Who takes a waiting screen down

The listener of a waiting screen fails when its game is gone.  A screen that is
left deletes the game that its field names, whoever has created it, but it listens
to its own games only and stops listening first.  So the game of a screen that
goes down has been deleted by another device, which had asked to join it and was
left too early.  All this is for invitations and links to games that have been
created, as in the system; a link with an id that the database refuses takes the
screen down as it is left.
-/

namespace Tocate

namespace Sala

open Cloud

variable {ι : Type*} [DecidableEq ι]

/-! ## What has happened -/

section Past

variable (s₀ : Estado ι) (acts : List (Paso ι))

/-- Device `i` has created the game. -/
def Creo (i : ι) (g : String) : Prop :=
  Runs.Once programa.step (fun _ s a => a = .arrive i ∧
    ∃ j ws, s.outbox i = .addJugada g j :: ws ∧ s.server.creador g = none)
    s₀ acts

/-- The search screen of device `k` has asked to join the game. -/
def Pidio (k : ι) (g : String) : Prop :=
  Runs.Once programa.step (fun _ s a => ∃ e, a = .event k (.busca e) ∧
    (s.client k).busca.pide e = some g) s₀ acts

/-- The search screen of device `k` has asked to join the game and has been
stopped with the game in its field, which deletes it. -/
def Deshizo (k : ι) (g : String) : Prop :=
  Runs.Once programa.step (fun past s a => a = .event k (.busca .onStop) ∧
    (s.client k).busca.borra .onStop = some g ∧ Pidio s₀ past k g) s₀ acts

/-- Another device has done so. -/
def Deshecha (i : ι) (g : String) : Prop := ∃ k, k ≠ i ∧ Deshizo s₀ acts k g

end Past

/-- The games that device `i` listens to, or will as soon as it is told of
them. -/
def oidas (s : Estado ι) (i : ι) : List String :=
  (s.client i).busca.registros.map Prod.snd ++
    FindGame.concedidas (s.acks i)

/-- What the past of a run says of the state reached. -/
structure Testigos (s₀ : Estado ι) (acts : List (Paso ι)) (s : Estado ι) :
    Prop where
  copias : Creadas s
  intacta : ∀ i, Intacta (s.client i).busca (pendientes s i)
  creador : ∀ i g, Creo s₀ acts i g → s.server.creador g ≠ none
  autor : ∀ i k g, Creo s₀ acts i g → Creo s₀ acts k g → i = k
  antes : ∀ i, (s.client i).busca.espera ≠ .nada → ∀ g, ¬Creo s₀ acts i g
  escucha : ∀ i, FindGame.Escucha (Creo s₀ acts i) (Deshecha s₀ acts i)
    (s.client i).busca (FindGame.concedidas (s.acks i))
  campo : ∀ i, (s.client i).busca.jugadaId ≠ "" →
    ¬Creo s₀ acts i (s.client i).busca.jugadaId →
      Pidio s₀ acts i (s.client i).busca.jugadaId ∧
        s.server.creador (s.client i).busca.jugadaId ≠ none
  baja : ∀ k g, .deleteJugada g ∈ s.outbox k →
    (Creo s₀ acts k g → g ∉ oidas s k) ∧
      (¬Creo s₀ acts k g → Deshizo s₀ acts k g ∧ s.server.creador g ≠ none)
  ausente : ∀ i, ∀ g ∈ oidas s i, s.server.jugadas g = none →
    Deshecha s₀ acts i g
  caida : ∀ i, (s.client i).busca.caida = true →
    .event i (.busca (.onCreate (.pinvDirecta ""))) ∈ acts ∨
      ∃ g, Creo s₀ acts i g ∧ Deshecha s₀ acts i g

section Steps

variable {s₀ s s' : Estado ι} {acts : List (Paso ι)} {a : Paso ι} {i k : ι}
  {g : String}

theorem creo_snoc_iff (hrun : Runs.run programa.step s₀ acts = some s) :
    Creo s₀ (acts ++ [a]) i g ↔ Creo s₀ acts i g ∨ a = .arrive i ∧
      ∃ j ws, s.outbox i = .addJugada g j :: ws ∧ s.server.creador g = none :=
  Runs.once_snoc_iff hrun

/-- A game is created once. -/
theorem creo_of_creador (hrun : Runs.run programa.step s₀ acts = some s)
    (hcreador : s.server.creador g ≠ none)
    (h : Creo s₀ (acts ++ [a]) i g) : Creo s₀ acts i g := by
  rcases (creo_snoc_iff hrun).mp h with hold | ⟨-, j, ws, -, hno⟩
  · exact hold
  · exact absurd hno hcreador

/-- Nothing but the arrival of its own writes creates games for a device. -/
theorem creo_of_ne (hrun : Runs.run programa.step s₀ acts = some s)
    (h : Creo s₀ (acts ++ [a]) i g) (ha : a ≠ .arrive i) : Creo s₀ acts i g := by
  rcases (creo_snoc_iff hrun).mp h with hold | ⟨heq, -⟩
  · exact hold
  · exact absurd heq ha

theorem Deshecha.append (h : Deshecha s₀ acts i g) (more : List (Paso ι)) :
    Deshecha s₀ (acts ++ more) i g := by
  obtain ⟨k, hk, hdes⟩ := h
  exact ⟨k, hk, Runs.Once.append hdes more⟩

/-- Nobody forgets that a game has been created. -/
theorem creador_ne_none (hstep : programa.step s a = some s')
    (h : s.server.creador g ≠ none) : s'.server.creador g ≠ none := by
  obtain ⟨c, hc⟩ := Option.ne_none_iff_exists'.mp h
  rw [step_creador hstep hc]
  exact Option.some_ne_none c

/-- What a step is for the search screen of device `i` and the outcomes of its
writes. -/
theorem step_pantalla (hstep : programa.step s a = some s') (i : ι) :
    (∃ e t, a = .event i (.busca e) ∧ Atiende s s' i e t) ∨
    (∃ w ok, a = .confirm i ∧ Sabe s s' i w ok) ∨
    (∃ w ws, a = .arrive i ∧ s.outbox i = w :: ws ∧
      s' = programa.receive s i w ws) ∨
    (a ≠ .arrive i ∧ (s'.client i).busca = (s.client i).busca ∧
      s'.acks i = s.acks i) := by
  rcases step_busca hstep i with hat | hsabe | ⟨hevento, hconfirma, hajeno⟩
  · exact Or.inl hat
  · exact Or.inr (Or.inl hsabe)
  rcases Program.step_at hstep i with ⟨e, r, rfl, -, rfl⟩ |
    ⟨w, ws, rfl, hbox, rfl⟩ | ⟨w, ok, rest, rfl, -, -⟩ |
    ⟨d, rest, rfl, -, rfl⟩ | hidle
  · exact Or.inr (Or.inr (Or.inr ⟨nofun, hajeno.busca, rfl⟩))
  · exact Or.inr (Or.inr (Or.inl ⟨w, ws, rfl, hbox, rfl⟩))
  · exact absurd rfl hconfirma
  · exact Or.inr (Or.inr (Or.inr ⟨nofun, hajeno.busca, rfl⟩))
  · exact Or.inr (Or.inr (Or.inr ⟨hidle.arrive, hajeno.busca, hidle.acks⟩))

/-- The outcome that a device is about to be told. -/
theorem concedidas_receive {w : Escritura} {ws : List Escritura}
    (hbox : s.outbox i = w :: ws) :
    FindGame.concedidas ((programa.receive s i w ws).acks i) =
        FindGame.concedidas (s.acks i) ∧
      (∀ g j, w = .addJugada g j → s.server.creador g ≠ none) ∨
    ∃ g j, w = .addJugada g j ∧ s.server.creador g = none ∧
      FindGame.concedidas ((programa.receive s i w ws).acks i) =
        FindGame.concedidas (s.acks i) ++ [g] := by
  have hacks : FindGame.concedidas ((programa.receive s i w ws).acks i) =
      FindGame.concedidas (s.acks i) ++
        FindGame.concedidas [(w, (s.server.aplicar w).2)] := by
    simp only [Program.receive, Function.update_self]
    exact List.filterMap_append
  rw [hacks]
  cases w with
  | addJugada g j =>
      cases hno : s.server.creador g with
      | none =>
          refine Or.inr ⟨g, j, rfl, hno, ?_⟩
          simp [FindGame.concedidas, BaseDatos.aplicar, hno, Escritura.crea]
      | some c =>
          refine Or.inl ⟨?_, ?_⟩
          · simp [FindGame.concedidas, BaseDatos.aplicar, hno]
          · rintro g' j' ⟨⟩
            rw [hno]
            exact Option.some_ne_none c
  | _ =>
      refine Or.inl ⟨by simp [FindGame.concedidas, Escritura.crea], ?_⟩
      rintro g' j' ⟨⟩

omit [DecidableEq ι] in
/-- What a screen asks for has been created. -/
theorem Creadas.pide (h : Creadas s) {e : FindGame.Suceso} {t : FindGame.Turno}
    (hat : Atiende s s' i e t) (hpide : (s.client i).busca.pide e = some g) :
    s.server.creador g ≠ none := by
  rcases nombrada_of_pide hpide with hnombrada | hreclamo
  · exact hat.nombrada g hnombrada
  · cases e with
    | onComplete nuevas =>
        simp only [FindGame.pide] at hpide
        split at hpide
        next docs hespera =>
          obtain ⟨p, hp, rfl⟩ := Option.map_eq_some_iff.mp hpide
          exact h.docs i docs hespera p (List.mem_of_find?_eq_some hp)
        · cases hpide
    | _ => cases hreclamo

namespace Testigos

/-- A device that asks for a game has created nothing yet. -/
theorem pide (h : Testigos s₀ acts s) {e : FindGame.Suceso}
    {t : FindGame.Turno} (hat : Atiende s s' i e t)
    (hpide : (s.client i).busca.pide e = some g) : ¬Creo s₀ acts i g :=
  h.antes i
    ((FindGame.atiende_cambio hat.atiende).esperaba_of_pide hpide) g

/-- The game in the field has been created. -/
theorem campo_creador (h : Testigos s₀ acts s)
    (hid : (s.client i).busca.jugadaId ≠ "") :
    s.server.creador (s.client i).busca.jugadaId ≠ none := by
  by_cases hcreo : Creo s₀ acts i (s.client i).busca.jugadaId
  · exact h.creador i _ hcreo
  · exact (h.campo i hid hcreo).2

/-- A device listens to games of its own only. -/
theorem creo_of_oidas (h : Testigos s₀ acts s) (hg : g ∈ oidas s i) :
    Creo s₀ acts i g :=
  (h.escucha i).creadas g hg

theorem creador_step (h : Testigos s₀ acts s)
    (hrun : Runs.run programa.step s₀ acts = some s)
    (hstep : programa.step s a = some s')
    (hg : Creo s₀ (acts ++ [a]) i g) : s'.server.creador g ≠ none := by
  rcases (creo_snoc_iff hrun).mp hg with hold | ⟨rfl, j, ws, hbox, hno⟩
  · exact creador_ne_none hstep (h.creador i g hold)
  · obtain ⟨w, ws', hbox', rfl⟩ := Program.step_arrive hstep
    obtain ⟨rfl, -⟩ := List.cons_eq_cons.mp (hbox.symm.trans hbox')
    simp [programa, BaseDatos.aplicar, hno, BaseDatos.conCreador]

theorem autor_step (h : Testigos s₀ acts s)
    (hrun : Runs.run programa.step s₀ acts = some s)
    (hi : Creo s₀ (acts ++ [a]) i g) (hk : Creo s₀ (acts ++ [a]) k g) :
    i = k := by
  by_cases hcreador : s.server.creador g = none
  · rcases (creo_snoc_iff hrun).mp hi with hold | ⟨rfl, -⟩
    · exact absurd hcreador (h.creador i g hold)
    rcases (creo_snoc_iff hrun).mp hk with hold | ⟨heq, -⟩
    · exact absurd hcreador (h.creador k g hold)
    · exact Action.arrive.inj heq
  · exact h.autor i k g (creo_of_creador hrun hcreador hi)
      (creo_of_creador hrun hcreador hk)

theorem antes_step (h : Testigos s₀ acts s)
    (hrun : Runs.run programa.step s₀ acts = some s)
    (hstep : programa.step s a = some s')
    (hespera : (s'.client i).busca.espera ≠ .nada) :
    ¬Creo s₀ (acts ++ [a]) i g := by
  intro hcreo
  rcases step_pantalla hstep i with ⟨e, t, rfl, hat⟩ | ⟨w, ok, rfl, hsabe⟩ |
    ⟨w, ws, rfl, hbox, rfl⟩ | ⟨ha, hbusca, -⟩
  · rw [hat.busca] at hespera
    have hantes := (FindGame.atiende_cambio hat.atiende).esperaba hespera
    exact h.antes i hantes g (creo_of_ne hrun hcreo nofun)
  · rw [hsabe.busca, FindGame.ack_espera] at hespera
    exact h.antes i hespera g (creo_of_ne hrun hcreo nofun)
  · rcases (creo_snoc_iff hrun).mp hcreo with hold | ⟨-, j, ws', hbox', -⟩
    · exact h.antes i hespera g hold
    · have hmem : .addJugada g j ∈ pendientes s i :=
        List.mem_append_right _ (mem_of_eq_cons hbox')
      exact absurd ((h.intacta i hespera).2.2.2.2 _ hmem).crea nofun
  · rw [hbusca] at hespera
    exact h.antes i hespera g (creo_of_ne hrun hcreo ha)

/-- A game that is listened to after a step was listened to before, or has just
been created. -/
theorem oidas_step (h : Testigos s₀ acts s)
    (hrun : Runs.run programa.step s₀ acts = some s)
    (hstep : programa.step s a = some s') (i : ι) :
    FindGame.Escucha (Creo s₀ (acts ++ [a]) i) (Deshecha s₀ (acts ++ [a]) i)
        (s'.client i).busca (FindGame.concedidas (s'.acks i)) ∧
      ∀ g ∈ oidas s' i, g ∈ oidas s i ∨ ∃ j ws, a = .arrive i ∧
        s.outbox i = .addJugada g j :: ws ∧ s.server.creador g = none := by
  -- what is known before the step, in the words of the past after it
  have hantes : FindGame.Escucha (Creo s₀ (acts ++ [a]) i)
      (Deshecha s₀ (acts ++ [a]) i) (s.client i).busca
      (FindGame.concedidas (s.acks i)) :=
    (h.escucha i).mono (fun g hg => Runs.Once.append hg [a])
      (fun g hg => hg.append [a])
      fun hid hcreo => creo_of_creador hrun (h.campo_creador hid) hcreo
  unfold oidas
  rcases step_pantalla hstep i with ⟨e, t, rfl, hat⟩ | ⟨w, ok, rfl, hsabe⟩ |
    ⟨w, ws, rfl, hbox, rfl⟩ | ⟨ha, hbusca, hacks⟩
  · have hnew := hantes.atiende hat.atiende
      (fun g hpide hcreo => h.pide hat hpide (creo_of_ne hrun hcreo nofun))
      fun r hr hnone => Deshecha.append
        (h.ausente i r.2 (List.mem_append_left _ (List.mem_map_of_mem hr)) hnone)
        _
    rw [hat.busca, hat.acks]
    refine ⟨hnew.sigue rfl rfl rfl rfl (Or.inl rfl), fun g hg => Or.inl ?_⟩
    refine (List.mem_append.mp hg).elim (fun hreg => ?_)
      (List.mem_append_right _)
    exact List.mem_append_left _ (List.map_subset _
      (FindGame.atiende_cambio hat.atiende).registros hreg)
  · have hacks := hsabe.acks
    rw [hacks] at hantes ⊢
    rw [hsabe.busca]
    exact ⟨hantes.ack, fun g hg => Or.inl (FindGame.oidas_ack _ w ok _ hg)⟩
  · rcases concedidas_receive hbox with ⟨hsame, -⟩ | ⟨g, j, rfl, hno, hnew⟩
    · rw [hsame]
      exact ⟨hantes, fun g hg => Or.inl hg⟩
    · rw [hnew]
      have hcreo : Creo s₀ (acts ++ [.arrive i]) i g :=
        (creo_snoc_iff hrun).mpr (Or.inr ⟨rfl, j, ws, hbox, hno⟩)
      refine ⟨hantes.concede hcreo ?_ ?_, ?_⟩
      · exact fun hmem => h.creador i g (h.creo_of_oidas hmem) hno
      · rintro hid rfl
        exact h.campo_creador hid hno
      · intro g' hg'
        rw [← List.append_assoc] at hg'
        refine (List.mem_append.mp hg').imp_right fun hlast => ?_
        rw [List.mem_singleton.mp hlast]
        exact ⟨j, ws, rfl, hbox, hno⟩
  · rw [hbusca, hacks]
    exact ⟨hantes, fun g hg => Or.inl hg⟩

theorem campo_step (h : Testigos s₀ acts s)
    (hrun : Runs.run programa.step s₀ acts = some s)
    (hstep : programa.step s a = some s')
    (hid : (s'.client i).busca.jugadaId ≠ "")
    (hno : ¬Creo s₀ (acts ++ [a]) i (s'.client i).busca.jugadaId) :
    Pidio s₀ (acts ++ [a]) i (s'.client i).busca.jugadaId ∧
      s'.server.creador (s'.client i).busca.jugadaId ≠ none := by
  -- the field names what it named before
  have hsame : (s'.client i).busca.jugadaId = (s.client i).busca.jugadaId →
      Pidio s₀ (acts ++ [a]) i (s'.client i).busca.jugadaId ∧
        s'.server.creador (s'.client i).busca.jugadaId ≠ none := by
    intro heq
    rw [heq] at hid hno ⊢
    obtain ⟨hpidio, hcreador⟩ :=
      h.campo i hid fun hcreo => hno (Runs.Once.append hcreo [a])
    exact ⟨Runs.Once.append hpidio [a], creador_ne_none hstep hcreador⟩
  rcases step_pantalla hstep i with ⟨e, t, rfl, hat⟩ | ⟨w, ok, rfl, hsabe⟩ |
    ⟨w, ws, rfl, hbox, rfl⟩ | ⟨-, hbusca, -⟩
  · have hcampo : (s'.client i).busca.jugadaId = t.state.jugadaId := by
      rw [hat.busca]
    rcases (FindGame.atiende_cambio hat.atiende).jugadaId with
      heq | hvacia | hpide
    · exact hsame (hcampo.trans heq)
    · exact absurd (hcampo.trans hvacia) hid
    · rw [hcampo]
      refine ⟨(Runs.once_snoc_iff hrun).mpr (Or.inr ⟨e, rfl, hpide⟩), ?_⟩
      exact creador_ne_none hstep (h.copias.pide hat hpide)
  · have hack := FindGame.ack_confirma (s.client i).busca w ok
    rw [← hsabe.busca] at hack
    rcases hack.jugadaId with heq | hvacia | ⟨rfl, hcrea⟩
    · exact hsame heq
    · exact absurd hvacia hid
    · have hmem : (s'.client i).busca.jugadaId ∈ oidas s i := by
        refine List.mem_append_right _ (List.mem_filterMap.mpr
          ⟨(w, true), mem_of_eq_cons hsabe.acks, hcrea⟩)
      exact absurd (Runs.Once.append (h.creo_of_oidas hmem) _) hno
  · exact hsame rfl
  · exact hsame (congrArg FindGame.jugadaId hbusca)

theorem baja_step (h : Testigos s₀ acts s)
    (hrun : Runs.run programa.step s₀ acts = some s)
    (hstep : programa.step s a = some s')
    (hg : .deleteJugada g ∈ s'.outbox k) :
    (Creo s₀ (acts ++ [a]) k g → g ∉ oidas s' k) ∧
      (¬Creo s₀ (acts ++ [a]) k g →
        Deshizo s₀ (acts ++ [a]) k g ∧ s'.server.creador g ≠ none) := by
  rcases step_outbox hstep k _ hg with hold | hajena | ⟨e, t, rfl, hat, hnew⟩
  · obtain ⟨hpropia, hajena⟩ := h.baja k g hold
    have hcreador : s.server.creador g ≠ none := by
      by_cases hcreo : Creo s₀ acts k g
      · exact h.creador k g hcreo
      · exact (hajena hcreo).2
    constructor
    · intro hcreo hmem
      rcases (h.oidas_step hrun hstep k).2 g hmem with hantes |
        ⟨j, ws, -, -, hno⟩
      · exact hpropia (creo_of_creador hrun hcreador hcreo) hantes
      · exact hcreador hno
    · intro hno
      obtain ⟨hdes, -⟩ :=
        hajena fun hcreo => hno (Runs.Once.append hcreo [a])
      exact ⟨Runs.Once.append hdes [a], creador_ne_none hstep hcreador⟩
  · exact absurd hajena.borrada nofun
  · have hborra := ((FindGame.atiende_writes hat.atiende).1 _ hnew).borra_eq
    obtain ⟨rfl, hid, rfl⟩ := FindGame.borra_eq_some hborra
    constructor
    · intro hcreo
      have hstate : t.state = (s.client k).busca.onStop.state := by
        obtain ⟨-, ⟨⟩⟩ := Option.ite_none_right_eq_some.mp hat.atiende
        rfl
      unfold oidas
      rw [hat.busca, hat.acks, hstate]
      exact (h.escucha k).borra hborra (creo_of_ne hrun hcreo nofun)
    · intro hno
      obtain ⟨hpidio, hcreador⟩ :=
        h.campo k hid fun hcreo => hno (Runs.Once.append hcreo _)
      refine ⟨(Runs.once_snoc_iff hrun).mpr (Or.inr ⟨rfl, hborra, hpidio⟩), ?_⟩
      exact creador_ne_none hstep hcreador

/-- A game that is listened to and goes away has been deleted by another
device. -/
theorem ausente_step (h : Testigos s₀ acts s)
    (hrun : Runs.run programa.step s₀ acts = some s)
    (hstep : programa.step s a = some s') (hg : g ∈ oidas s' i)
    (hnone : s'.server.jugadas g = none) :
    Deshecha s₀ (acts ++ [a]) i g := by
  rcases (h.oidas_step hrun hstep i).2 g hg with hantes | ⟨j, ws, rfl, hbox, hno⟩
  · by_cases hfuera : s.server.jugadas g = none
    · exact (h.ausente i g hantes hfuera).append [a]
    rcases Program.step_flight hstep with ⟨k, w, ws, rfl, hbox, rfl⟩ |
      ⟨hserver, -⟩
    · obtain rfl : w = .deleteJugada g := by
        by_contra hotra
        exact BaseDatos.aplicar_presente hfuera hotra hnone
      obtain ⟨hpropia, hajena⟩ := h.baja k g (mem_of_eq_cons hbox)
      have hcreo := h.creo_of_oidas hantes
      by_cases hk : Creo s₀ acts k g
      · obtain rfl := h.autor k i g hk hcreo
        exact absurd hantes (hpropia hk)
      · have hne : k ≠ i := by
          rintro rfl
          exact hk hcreo
        exact Deshecha.append ⟨k, hne, (hajena hk).1⟩ _
    · exact absurd (hserver ▸ hnone) hfuera
  · obtain ⟨w, ws', hbox', rfl⟩ := Program.step_arrive hstep
    obtain ⟨rfl, -⟩ := List.cons_eq_cons.mp (hbox.symm.trans hbox')
    simp [programa, BaseDatos.aplicar, hno] at hnone

theorem caida_step (h : Testigos s₀ acts s)
    (hstep : programa.step s a = some s')
    (hcaida : (s'.client i).busca.caida = true) :
    .event i (.busca (.onCreate (.pinvDirecta ""))) ∈ acts ++ [a] ∨
      ∃ g, Creo s₀ (acts ++ [a]) i g ∧ Deshecha s₀ (acts ++ [a]) i g := by
  have hantes : (s.client i).busca.caida = true →
      .event i (.busca (.onCreate (.pinvDirecta ""))) ∈ acts ++ [a] ∨
        ∃ g, Creo s₀ (acts ++ [a]) i g ∧ Deshecha s₀ (acts ++ [a]) i g := by
    intro hcae
    rcases h.caida i hcae with hmem | ⟨g, hcreo, hdes⟩
    · exact Or.inl (List.mem_append_left _ hmem)
    · exact Or.inr ⟨g, Runs.Once.append hcreo [a], hdes.append [a]⟩
  rcases step_pantalla hstep i with ⟨e, t, rfl, hat⟩ | ⟨w, ok, rfl, hsabe⟩ |
    ⟨w, ws, rfl, -, rfl⟩ | ⟨-, hbusca, -⟩
  · have hestado : (t.state.caida || t.failed) = true := by
      rw [hat.busca] at hcaida
      exact hcaida
    rw [(FindGame.atiende_cambio hat.atiende).caida_eq, hat.viva,
      Bool.false_or] at hestado
    rcases FindGame.atiende_failed hat.atiende hestado with rfl |
      ⟨rfl, n, g, eventos, heventos, hreg⟩
    · exact Or.inl (List.mem_append_right _ (List.mem_singleton_self _))
    · have hmem : (n, none) ∈ (s.client i).busca.eventos :=
        mem_of_eq_cons heventos
      have hdes := ((h.escucha i).eventos _ hmem).2 rfl g hreg
      have hoida : g ∈ oidas s i :=
        List.mem_append_left _ (List.mem_map_of_mem hreg)
      exact Or.inr ⟨g, Runs.Once.append (h.creo_of_oidas hoida) _,
        hdes.append _⟩
  · rw [hsabe.busca, FindGame.ack_caida] at hcaida
    exact hantes hcaida
  · exact hantes hcaida
  · rw [hbusca] at hcaida
    exact hantes hcaida

/-- The past of a run that goes on. -/
theorem step (h : Testigos s₀ acts s)
    (hrun : Runs.run programa.step s₀ acts = some s)
    (hstep : programa.step s a = some s') : Testigos s₀ (acts ++ [a]) s' where
  copias := h.copias.step hstep
  intacta := fun i => (h.intacta i).step hstep
  creador := fun _ _ => h.creador_step hrun hstep
  autor := fun _ _ _ => h.autor_step hrun
  antes := fun _ hespera _ => h.antes_step hrun hstep hespera
  escucha := fun i => (h.oidas_step hrun hstep i).1
  campo := fun _ => h.campo_step hrun hstep
  baja := fun _ _ => h.baja_step hrun hstep
  ausente := fun _ _ => h.ausente_step hrun hstep
  caida := fun _ => h.caida_step hstep

end Testigos

end Steps

/-! ## Runs -/

theorem not_once_nil {P : List (Paso ι) → Estado ι → Paso ι → Prop}
    {s₀ : Estado ι} : ¬Runs.Once programa.step P s₀ [] := by
  rintro ⟨xs, a, ys, t, hsplit, -⟩
  exact absurd hsplit.symm (List.append_ne_nil_of_right_ne_nil xs
    (List.cons_ne_nil a ys))

theorem testigos_inicial (uid juego : ι → String)
    (users : String → Option User) :
    Testigos (inicial uid juego users) [] (inicial uid juego users) where
  copias := copias_inicial _ uid juego users
  intacta := fun _ _ => ⟨rfl, rfl, rfl, rfl, List.forall_mem_nil _⟩
  creador := fun _ _ h => absurd h not_once_nil
  autor := fun _ _ _ h => absurd h not_once_nil
  antes := fun _ _ _ => not_once_nil
  escucha := fun _ =>
    { numeros := List.nodup_nil
      cota := List.forall_mem_nil _
      eventos := List.forall_mem_nil _
      oidas := List.nodup_nil
      creadas := List.forall_mem_nil _
      campo := fun hid => absurd rfl hid }
  campo := fun _ hid => absurd rfl hid
  baja := fun _ _ h => absurd h List.not_mem_nil
  ausente := fun _ _ h => absurd h List.not_mem_nil
  caida := nofun

theorem testigos_run {uid juego : ι → String} {users : String → Option User}
    {acts : List (Paso ι)} {s : Estado ι}
    (hrun : Runs.run programa.step (inicial uid juego users) acts = some s) :
    Testigos (inicial uid juego users) acts s :=
  Runs.invariant_past (I := Testigos (inicial uid juego users))
    (fun _ _ _ _ hpast h hstep => h.step hpast hstep)
    (testigos_inicial uid juego users) hrun

/-- With invitations and links to created games, a search screen goes down only
where it has been opened for a game without an id, or where a game that it has
created was deleted by another device, which had asked to join that game and was
stopped with it in its field. -/
theorem caida_por_otro {uid juego : ι → String} {users : String → Option User}
    {acts : List (Paso ι)} {s : Estado ι}
    (hrun : Runs.run programa.step (inicial uid juego users) acts = some s)
    {i : ι} (hcaida : (s.client i).busca.caida = true) :
    .event i (.busca (.onCreate (.pinvDirecta ""))) ∈ acts ∨
      ∃ g, Creo (inicial uid juego users) acts i g ∧
        Deshecha (inicial uid juego users) acts i g :=
  (testigos_run hrun).caida i hcaida

/-- `a` hears of the deletion by `b`. -/
def seEntera : List (Paso (Trio)) :=
  aceptaYSale ++ [.event .ana (.busca (.emite 0)), .event .ana (.busca .onEvent)]

theorem caida_por_otro_ana :
    ∃ s, Runs.run programa.step (inicial deTres (fun _ => "g") fun _ => none)
        seEntera = some s ∧ (s.client .ana).busca.caida = true ∧
      ∃ g, Creo (inicial deTres (fun _ => "g") fun _ => none) seEntera .ana g ∧
        Deshecha (inicial deTres (fun _ => "g") fun _ => none) seEntera .ana g := by
  have hvalor : (Runs.run programa.step
      (inicial deTres (fun _ => "g") fun _ => none) seEntera).map
        (fun s => (s.client .ana).busca.caida) = some true := by decide
  obtain ⟨s, hrun, hcaida⟩ := Option.map_eq_some_iff.mp hvalor
  refine ⟨s, hrun, hcaida, ?_⟩
  exact (caida_por_otro hrun hcaida).resolve_left
    (by simp [seEntera, aceptaYSale])

end Sala

end Tocate
