import StreamServer.Capability.FlightResults

set_option autoImplicit false

namespace StreamServer.Capability

namespace Registry

section Callers

variable {registry next : Registry} {place : Nat} {caller : Caller}

theorem served_lookedUp (playbackActive : Bool) (now : Option StateNow) :
    registry.Served (registry.lookedUp caller playbackActive now) := by
  obtain ⟨_, same⟩ | ⟨_, same⟩ := @lookedUp_phase registry caller playbackActive now <;>
  · rw [same]
    trivial

theorem Delivered.advance {after : Caller} (delivered : registry.Delivered)
    (found : registry.callers[place]? = some caller) (served : registry.Served after)
    (unowning : ∀ owned, caller.phase ≠ .owning owned) :
    (registry.setCaller place after).Delivered ∧ Keeps registry (registry.setCaller place after) :=
  ⟨delivered.setCaller found served fun owned _ owns => absurd owns (unowning owned),
    keeps_of_tasks rfl⟩

theorem keeps_append {flight : Flight} {after : Registry}
    (tasks : after.tasks = registry.tasks ++ [flight]) : Keeps registry after := by
  intro other twin atOther
  refine ⟨twin, ?_, ⟨rfl, rfl, rfl, rfl⟩, fun _ => id⟩
  rw [tasks, List.getElem?_append_left (List.getElem?_eq_some_iff.mp atOther).1, atOther]

theorem Delivered.opened {flight : Flight} {owner : Caller} {after : Registry}
    (delivered : registry.Delivered) (found : registry.callers[place]? = some caller)
    (unowning : ∀ owned, caller.phase ≠ .owning owned)
    (fresh : flight.shown = none ∧ flight.phase = .registered)
    (same : flight.key = owner.key ∧ flight.target = owner.target)
    (owns : owner.phase = .owning registry.tasks.length)
    (tasks : after.tasks = registry.tasks ++ [flight])
    (callers : after.callers = registry.callers.set place owner)
    (shutdown : after.shutdown = registry.shutdown) : after.Delivered := by
  have atEnd : after.tasks[registry.tasks.length]? = some flight := by
    rw [tasks]
    exact List.getElem?_concat_length
  refine ⟨?_, ?_, ?_, ?_⟩
  · intro other twin atOther
    rw [tasks] at atOther
    obtain earlier | ⟨_, rfl⟩ := Lists.getElem?_append_cases atOther
    · exact delivered.shown other twin earlier
    · rw [fresh.1, fresh.2]
      rfl
  · intro other twin atOther left
    rw [tasks] at atOther
    rw [shutdown]
    obtain earlier | ⟨_, rfl⟩ := Lists.getElem?_append_cases atOther
    · exact delivered.unowned other twin earlier left
    · rw [fresh.2] at left
      cases left
  · intro other member
    rw [callers] at member
    obtain earlier | rfl := List.mem_or_eq_of_mem_set member
    · exact (keeps_append tasks).served (fun stopped => by rw [shutdown, stopped])
        (delivered.served other earlier)
    · unfold Served
      rw [owns]
      exact ⟨flight, atEnd, same.1, same.2⟩
  · intro other twin atOther phase
    rw [tasks] at atOther
    rw [callers]
    obtain earlier | ⟨rfl, rfl⟩ := Lists.getElem?_append_cases atOther
    · obtain ⟨holder, member, holds⟩ := delivered.owned other twin earlier phase
      refine ⟨holder, Lists.mem_set_of_ne found ?_ member, holds⟩
      rintro rfl
      exact unowning other holds
    · exact ⟨owner, Lists.mem_set_self found, owns⟩

-- The flight of the owner moves on, and the owner to a phase that owns none.
theorem Delivered.handOver {flight : Nat} {held after : Flight} {owner : Caller}
    (delivered : registry.Delivered) (found : registry.callers[place]? = some caller)
    (owns : caller.phase = .owning flight) (present : registry.tasks[flight]? = some held)
    (same : SameFlight held after) (shown : after.shown.isSome = after.phase.answered)
    (keeps : ∀ result, held.shown = some result → after.shown = some result)
    (unowned : after.phase.unowned = true → registry.shutdown = true)
    (ahead : after.phase ≠ .registered)
    (served : (registry.setTask flight after).Served owner) :
    ((registry.setTask flight after).setCaller place owner).Delivered ∧
      Keeps registry ((registry.setTask flight after).setCaller place owner) := by
  have moved : (registry.setTask flight after).Delivered :=
    delivered.setTask present same shown keeps unowned fun registered => absurd registered ahead
  have kept : Keeps registry (registry.setTask flight after) := keeps_setTask present same keeps
  have atFlight : (registry.setTask flight after).tasks[flight]? = some after :=
    List.getElem?_set_self (List.getElem?_eq_some_iff.mp present).1
  refine ⟨moved.setCaller found served ?_, kept.trans (keeps_of_tasks rfl)⟩
  intro owned twin ownsOther atOther registered
  rw [owns] at ownsOther
  cases ownsOther
  cases atFlight.symm.trans atOther
  exact ahead registered

theorem callerStep_delivered {step : CallerStep} (accounted : registry.Accounted)
    (delivered : registry.Delivered) (found : registry.callers[place]? = some caller)
    (taken : registry.callerStep place caller step = some next) :
    next.Delivered ∧ Keeps registry next := by
  have served := delivered.served caller (List.mem_of_getElem? found)
  have other : ∀ {phase : CallerPhase}, caller.phase = phase → (∀ owned, phase ≠ .owning owned) →
      ∀ owned, caller.phase ≠ .owning owned := fun same apart owned owns =>
    apart owned (same.symm.trans owns)
  cases callerStep_move taken with
  | looked playbackActive now phase =>
    exact delivered.advance found (served_lookedUp _ _) (other phase (by rintro _ ⟨⟩))
  | turnedAway epoch reason phase =>
    exact delivered.advance found trivial (other phase (by rintro _ ⟨⟩))
  | joined epoch flight held phase listed present sameTarget =>
    obtain ⟨entry, atFlight, sameKey, _⟩ := accounted.listed _ flight listed
    simp only [ledger, List.getElem?_map, present, Option.map_some, Option.some.injEq] at atFlight
    subst atFlight
    exact delivered.advance found ⟨held, present, sameKey, sameTarget⟩
      (other phase (by rintro _ ⟨⟩))
  | opened _ _ phase | openedFirst _ phase =>
    exact ⟨delivered.opened found (other phase (by rintro _ ⟨⟩)) ⟨rfl, rfl⟩ ⟨rfl, rfl⟩ rfl rfl rfl
      rfl, keeps_append rfl⟩
  | gateClosed flight held owns present phase shutdown =>
    have unshown : held.shown.isSome = false := by
      rw [delivered.shown flight held present, phase]
      rfl
    exact ⟨delivered.setTask present ⟨rfl, rfl, rfl, rfl⟩ unshown (fun _ => id) (fun _ => shutdown)
      (by rintro ⟨⟩), keeps_setTask present ⟨rfl, rfl, rfl, rfl⟩ fun _ => id⟩
  | spawned flight held owns present phase =>
    have unshown : held.shown.isSome = false := by
      rw [delivered.shown flight held present, phase]
      rfl
    have inside := (List.getElem?_eq_some_iff.mp present).1
    simp only [Served, owns] at served
    obtain ⟨own, same, key, target⟩ := served
    cases present.symm.trans same
    exact delivered.handOver found owns present ⟨rfl, rfl, rfl, rfl⟩ unshown (fun _ => id)
      (by rintro ⟨⟩) (by rintro ⟨⟩) ⟨_, List.getElem?_set_self inside, key, target⟩
  | received flight held result waits present shown =>
    simp only [Served, waits] at served
    obtain ⟨own, same, key, target⟩ := served
    cases present.symm.trans same
    exact delivered.advance found ⟨held, ⟨present, key, target⟩, .inl shown⟩
      (other waits (by rintro _ ⟨⟩))
  | receivedShutdown flight waits shutdown =>
    simp only [Served, waits] at served
    obtain ⟨held, joined⟩ := served
    exact delivered.advance found ⟨held, joined, .inr ⟨shutdown, rfl⟩⟩
      (other waits (by rintro _ ⟨⟩))
  | givenUp flight held owns present gone =>
    refine ⟨delivered.setCaller found trivial ?_, keeps_of_tasks rfl⟩
    intro owned twin ownsOther atOther registered
    rw [owns] at ownsOther
    cases ownsOther
    cases present.symm.trans atOther
    rw [gone] at registered
    cases registered
  | concluded flight result received =>
    exact delivered.advance found trivial (other received (by rintro _ ⟨⟩))
  | leftUnspawned flight held owns present phase =>
    have unshown : held.shown.isSome = false := by
      rw [delivered.shown flight held present, phase]
      rfl
    exact delivered.handOver found owns present ⟨rfl, rfl, rfl, rfl⟩ unshown (fun _ => id)
      (fun _ => delivered.unowned flight held present (by rw [phase]; rfl)) (by rintro ⟨⟩) trivial
  | leftSent flight held owns present phase =>
    have shown : held.shown.isSome = true := by
      rw [delivered.shown flight held present, phase]
      rfl
    exact delivered.handOver found owns present ⟨rfl, rfl, rfl, rfl⟩ shown (fun _ => id)
      (by rintro ⟨⟩) (by rintro ⟨⟩) trivial
  | dropped unowning => exact delivered.advance found trivial unowning

end Callers

end Registry

end StreamServer.Capability
