import StreamServer.Playback.Completion

set_option autoImplicit false

namespace StreamServer.Playback.Completion

open Runs TorrentLayout

-- With every event handled and no query in flight, what is cached of a file is its completeness.
def Coherent (cache : Cache) : Prop :=
  cache.alerts = [] → cache.commands = [] → cache.queries = [] →
    ∀ layout, cache.layout = some layout → ∀ fileIdx file value, layout.files[fileIdx]? = some file →
      layout.cached fileIdx = some value →
      (value = true ↔ ∀ piece, file.contains piece → cache.present piece = true)

-- What `query_layout` marks complete is complete but for pieces whose invalidation is still to be
-- handled, and no such invalidation is handled before the layout is in its cell.
def LoadsFaithfully (cache : Cache) : Action → Prop
  | .loadRead files => ∀ file ∈ files, file.markedComplete = true → ∀ piece, file.contains piece →
      cache.present piece = true ∨ .invalidated piece ∈ cache.pending
  | .handle => ∀ piece commands layout, cache.commands = .invalidated piece :: commands →
      cache.loading = some layout → ∀ file ∈ layout.files, file.markedComplete = true →
      file.contains piece →
      cache.present piece = true ∨ .invalidated piece ∈ commands ++ cache.alerts
  | _ => True

section Presence

variable {numPieces : Int} {present : Int → Bool}

theorem length_piecePresence {first last : Int} (inside : 0 ≤ first ∧ first ≤ last ∧ first < numPieces) :
    (piecePresence numPieces present first last).length =
      (min last (numPieces - 1) - first + 1).toNat := by
  rw [piecePresence, if_neg (by omega)]
  simp

theorem all_piecePresence {first last : Int} (inside : 0 ≤ first ∧ first ≤ last ∧ last < numPieces) :
    (piecePresence numPieces present first last).all (· == true) = true ↔
      ∀ piece, first ≤ piece → piece ≤ last → present piece = true := by
  rw [piecePresence, if_neg (by omega)]
  simp only [List.all_map, List.all_eq_true, List.mem_range, Function.comp_apply, beq_iff_eq]
  constructor
  · intro every piece lower upper
    have found := every (piece - first).toNat (by omega)
    rwa [show first + ((piece - first).toNat : Int) = piece by omega] at found
  · intro every index bound
    exact every (first + index) (by omega) (by omega)

theorem isComplete_iff (bounded : ∀ piece, present piece = true → 0 ≤ piece ∧ piece < numPieces)
    (file : FileInfo) :
    isComplete numPieces present file = true ↔
      ∀ piece, file.contains piece → present piece = true := by
  simp only [isComplete, Bool.and_eq_true, beq_iff_eq, FileInfo.contains, and_imp]
  by_cases empty : file.lastPiece < file.firstPiece
  · rw [piecePresence, if_pos (by omega)]
    refine ⟨fun _ piece lower upper => by omega, fun _ => ⟨by simp; omega, rfl⟩⟩
  · by_cases inside : 0 ≤ file.firstPiece ∧ file.lastPiece < numPieces
    · rw [length_piecePresence (by omega), all_piecePresence (by omega)]
      refine ⟨fun both => both.2, fun every => ⟨?_, every⟩⟩
      rw [Int.min_eq_left (by omega)]
    · refine ⟨fun both => ?_, fun every => ?_⟩
      · have length := both.1
        by_cases outside : file.firstPiece < 0 ∨ file.firstPiece ≥ numPieces
        · rw [piecePresence, if_pos (by omega), List.length_nil] at length
          omega
        · rw [length_piecePresence (by omega), Int.min_eq_right (by omega)] at length
          omega
      · have first := bounded _ (every file.firstPiece (by omega) (by omega))
        have last := bounded _ (every file.lastPiece (by omega) (by omega))
        omega

end Presence

/-- The value agrees with the presence but for pieces whose events are among `events`. -/
def Justified (present : Int → Bool) (events : List PieceEvent) (file : FileInfo) : Bool → Prop
  | true => ∀ piece, file.contains piece → present piece = true ∨ .invalidated piece ∈ events
  | false => ∃ piece, file.contains piece ∧ (present piece = false ∨ .verified piece ∈ events)

section Justified

variable {present : Int → Bool} {events more : List PieceEvent} {file : FileInfo} {value : Bool}

theorem Justified.mono (justified : Justified present events file value)
    (included : ∀ event ∈ events, event ∈ more) : Justified present more file value := by
  cases value with
  | true => exact fun piece inside => (justified piece inside).imp_right (included _)
  | false =>
    obtain ⟨piece, inside, reason⟩ := justified
    exact ⟨piece, inside, reason.imp_right (included _)⟩

theorem Justified.verify (justified : Justified present events file value) (piece : Int) :
    Justified (Function.update present piece true) (events ++ [.verified piece]) file value := by
  cases value with
  | true =>
    intro other inside
    by_cases same : other = piece
    · exact .inl (by simp [same])
    · refine (justified other inside).imp (fun there => ?_) (List.mem_append_left _)
      rwa [Function.update_of_ne same]
  | false =>
    obtain ⟨other, inside, reason⟩ := justified
    refine ⟨other, inside, ?_⟩
    by_cases same : other = piece
    · exact .inr (by simp [same])
    · refine reason.imp (fun missing => ?_) (List.mem_append_left _)
      rwa [Function.update_of_ne same]

theorem Justified.invalidate (justified : Justified present events file value) (piece : Int) :
    Justified (Function.update present piece false) (events ++ [.invalidated piece]) file value := by
  cases value with
  | true =>
    intro other inside
    by_cases same : other = piece
    · exact .inr (by simp [same])
    · refine (justified other inside).imp (fun there => ?_) (List.mem_append_left _)
      rwa [Function.update_of_ne same]
  | false =>
    obtain ⟨other, inside, reason⟩ := justified
    refine ⟨other, inside, ?_⟩
    by_cases same : other = piece
    · exact .inl (by simp [same])
    · refine reason.imp (fun missing => ?_) (List.mem_append_left _)
      rwa [Function.update_of_ne same]

theorem Justified.handle {event : PieceEvent}
    (justified : Justified present (event :: events) file value)
    (kept : clears event file (some value) = false) : Justified present events file value := by
  cases value with
  | true =>
    intro piece inside
    refine (justified piece inside).imp_right fun listed => ?_
    refine (List.mem_cons.mp listed).resolve_left fun same => ?_
    rw [← same] at kept
    simp [clears, inside] at kept
  | false =>
    obtain ⟨piece, inside, reason⟩ := justified
    refine ⟨piece, inside, reason.imp_right fun listed => ?_⟩
    refine (List.mem_cons.mp listed).resolve_left fun same => ?_
    rw [← same] at kept
    simp [clears, inside] at kept

theorem justified_isComplete {numPieces : Int}
    (bounded : ∀ piece, present piece = true → 0 ≤ piece ∧ piece < numPieces) :
    Justified present events file (isComplete numPieces present file) := by
  cases complete : isComplete numPieces present file with
  | true => exact fun piece inside => .inl ((isComplete_iff bounded file).mp complete piece inside)
  | false =>
    have some_missing : ¬ ∀ piece, file.contains piece → present piece = true := fun every =>
      absurd ((isComplete_iff bounded file).mpr every) (by simp [complete])
    push Not at some_missing
    obtain ⟨piece, inside, missing⟩ := some_missing
    exact ⟨piece, inside, .inl (by simpa using missing)⟩

end Justified

def LayoutJustified (present : Int → Bool) (events : List PieceEvent) (layout : TorrentLayout) : Prop :=
  ∀ fileIdx file value, layout.files[fileIdx]? = some file → layout.cached fileIdx = some value →
    Justified present events file value

section Layouts

variable {present : Int → Bool} {events : List PieceEvent} {layout : TorrentLayout}

theorem cached_observe {event : PieceEvent} {fileIdx : Nat} {file : FileInfo} {value : Bool}
    (found : layout.files[fileIdx]? = some file)
    (cached : (layout.observe event).cached fileIdx = some value) :
    layout.cached fileIdx = some value ∧ clears event file (some value) = false := by
  simp only [TorrentLayout.cached, observe, List.getElem?_zipWith, found] at cached
  cases here : layout.completion[fileIdx]? with
  | none => simp [here] at cached
  | some earlier =>
    simp only [here, Option.join_some, Option.ite_none_left_eq_some] at cached
    obtain ⟨kept, rfl⟩ := cached
    exact ⟨by simp [TorrentLayout.cached, here], by simpa using kept⟩

theorem cached_write {fileIdx other : Nat} {complete value : Bool}
    (cached : (layout.write fileIdx complete).cached other = some value) :
    other = fileIdx ∧ value = complete ∨ layout.cached other = some value := by
  by_cases same : other = fileIdx
  · subst same
    by_cases inside : other < layout.completion.length
    · simp only [TorrentLayout.cached, write, List.getElem?_set_self inside, Option.join_some,
        Option.some.injEq] at cached
      exact .inl ⟨rfl, cached.symm⟩
    · simp [TorrentLayout.cached, write, inside] at cached
  · simp only [TorrentLayout.cached, write, List.getElem?_set_ne (Ne.symm same)] at cached
    exact .inr cached

theorem cached_queryLayout {files : List FileInfo} {fileIdx : Nat} {file : FileInfo} {value : Bool}
    (found : files[fileIdx]? = some file)
    (cached : (queryLayout files).cached fileIdx = some value) :
    value = true ∧ file.markedComplete = true := by
  simp only [TorrentLayout.cached, queryLayout, List.getElem?_map, found, Option.map_some,
    Option.join_some, Option.ite_none_right_eq_some, Option.some.injEq] at cached
  exact ⟨cached.2.symm, cached.1⟩

theorem LayoutJustified.observe {event : PieceEvent}
    (justified : LayoutJustified present (event :: events) layout) :
    LayoutJustified present events (layout.observe event) := by
  intro fileIdx file value found cached
  have listed : layout.files[fileIdx]? = some file := found
  obtain ⟨earlier, kept⟩ := cached_observe listed cached
  exact (justified fileIdx file value found earlier).handle kept

theorem LayoutJustified.map {next : Int → Bool} {more : List PieceEvent}
    (justified : LayoutJustified present events layout)
    (keeps : ∀ file value, Justified present events file value → Justified next more file value) :
    LayoutJustified next more layout :=
  fun fileIdx file value found cached => keeps file value (justified fileIdx file value found cached)

end Layouts

structure Sound (cache : Cache) : Prop where
  bounded : ∀ piece, cache.present piece = true → 0 ≤ piece ∧ piece < cache.numPieces
  layout : ∀ layout, cache.layout = some layout → LayoutJustified cache.present cache.pending layout
  loading : ∀ layout, cache.loading = some layout →
    (∃ files, layout = .queryLayout files) ∧ LayoutJustified cache.present cache.pending layout
  once : cache.layout = none ∨ cache.loading = none
  idle : cache.layout = none → cache.queries = []
  -- Alerts are not popped while a query holds the session, so these events stay to be handled.
  queries : ∀ layout, cache.layout = some layout → ∀ fileIdx complete, .write fileIdx complete ∈ cache.queries →
    ∀ file, layout.files[fileIdx]? = some file → Justified cache.present cache.alerts file complete

section Steps

variable {before after : Cache} {action : Action}

theorem Sound.change (sound : Sound before) {present : Int → Bool} {event : PieceEvent}
    (bounded : ∀ piece, present piece = true → 0 ≤ piece ∧ piece < before.numPieces)
    (keeps : ∀ events file value, Justified before.present events file value →
      Justified present (events ++ [event]) file value) :
    Sound { before with present, alerts := before.alerts ++ [event] } where
  bounded := bounded
  layout := by
    intro layout found
    simp only [Cache.pending, ← List.append_assoc]
    exact (sound.layout layout found).map (keeps _)
  loading := by
    intro layout found
    simp only [Cache.pending, ← List.append_assoc]
    exact ⟨(sound.loading layout found).1, (sound.loading layout found).2.map (keeps _)⟩
  once := sound.once
  idle := sound.idle
  queries := fun layout found fileIdx complete member file here =>
    keeps _ _ _ (sound.queries layout found fileIdx complete member file here)

theorem Sound.dropQueries (sound : Sound before) {queries : List Query}
    (fewer : ∀ fileIdx complete, .write fileIdx complete ∈ queries →
      .write fileIdx complete ∈ before.queries)
    (idle : before.layout = none → queries = []) : Sound { before with queries } :=
  { sound with
    idle
    queries := fun layout found fileIdx complete member =>
      sound.queries layout found fileIdx complete (fewer fileIdx complete member) }

theorem Sound.handle (sound : Sound before) {event : PieceEvent} {commands : List PieceEvent}
    (waiting : before.commands = event :: commands) (faithful : LoadsFaithfully before .handle) :
    Sound { before with commands, layout := before.layout.map (·.observe event) } := by
  have split : before.pending = event :: (commands ++ before.alerts) := by
    rw [Cache.pending, waiting]
    rfl
  refine ⟨sound.bounded, fun layout found => ?_, fun layout loaded => ?_, ?_, fun absent => ?_,
    fun layout found fileIdx complete member file here => ?_⟩
  · obtain ⟨earlier, was, rfl⟩ := Option.map_eq_some_iff.mp found
    exact LayoutJustified.observe (split ▸ sound.layout earlier was)
  · obtain ⟨⟨files, rfl⟩, justified⟩ := sound.loading layout loaded
    refine ⟨⟨files, rfl⟩, fun fileIdx file value listed cached => ?_⟩
    obtain ⟨rfl, marked⟩ := cached_queryLayout listed cached
    have earlier := justified fileIdx file true listed cached
    rw [split] at earlier
    intro piece inside
    rcases earlier piece inside with there | pending
    · exact .inl there
    rcases List.mem_cons.mp pending with rfl | later
    · exact faithful piece commands _ waiting loaded file (List.mem_of_getElem? listed) marked inside
    · exact .inr later
  · exact sound.once.imp_left fun absent => by rw [absent]; rfl
  · exact sound.idle (Option.map_eq_none_iff.mp absent)
  · obtain ⟨earlier, was, rfl⟩ := Option.map_eq_some_iff.mp found
    exact sound.queries earlier was fileIdx complete member file here

theorem Sound.advance (sound : Sound before) {layout : TorrentLayout} {query : Query} {index : Nat}
    {torrentFound : Bool} (found : before.layout = some layout)
    (present : before.queries[index]? = some query)
    (taken : before.advance layout index torrentFound query = some after) : Sound after := by
  have erased : Sound { before with queries := before.queries.eraseIdx index } :=
    sound.dropQueries (fun _ _ member => List.mem_of_mem_eraseIdx member) fun absent => by
      rw [absent] at found
      cases found
  cases query with
  | checkCache fileIdx =>
    simp only [Cache.advance] at taken
    split at taken <;> cases taken
    · exact erased
    · refine sound.dropQueries (fun other complete member => ?_) fun absent => by
        rw [absent] at found
        cases found
      exact (List.mem_or_eq_of_mem_set member).resolve_right Query.noConfusion
  | lockSession fileIdx =>
    simp only [Cache.advance] at taken
    split at taken
    next file listed =>
      split at taken <;> cases taken
      · refine { sound with
          idle := fun absent => ?_
          queries := fun other same otherIdx complete member otherFile here => ?_ }
        · rw [absent] at found
          cases found
        · rcases List.mem_or_eq_of_mem_set member with earlier | new
          · exact sound.queries other same otherIdx complete earlier otherFile here
          · cases new
            cases found.symm.trans same
            cases listed.symm.trans here
            exact justified_isComplete sound.bounded
      · exact erased
    next =>
      cases taken
      exact erased
  | write fileIdx complete =>
    cases taken
    have held := List.mem_of_getElem? present
    refine ⟨sound.bounded, fun written same => ?_, sound.loading, .inr ?_, fun absent => ?_,
      fun written same otherIdx value member file here => ?_⟩
    · cases same
      intro otherIdx file value listed cached
      rcases cached_write cached with ⟨rfl, rfl⟩ | earlier
      · exact (sound.queries layout found _ _ held file listed).mono fun _ member =>
          List.mem_append_right _ member
      · exact sound.layout layout found otherIdx file value listed earlier
    · exact sound.once.resolve_left fun absent => by
        rw [absent] at found
        cases found
    · cases absent
    · cases same
      exact sound.queries layout found otherIdx value (List.mem_of_mem_eraseIdx member) file here

theorem step_sound (sound : Sound before) (faithful : LoadsFaithfully before action)
    (taken : before.step action = some after) : Sound after := by
  cases action with
  | verify piece =>
    simp only [Cache.step] at taken
    split at taken <;> cases taken
    next inside =>
      refine sound.change (fun other there => ?_) fun events file value justified =>
        justified.verify piece
      by_cases same : other = piece
      · exact same ▸ inside
      · rw [Function.update_of_ne same] at there
        exact sound.bounded other there
  | invalidate piece =>
    cases taken
    refine sound.change (fun other there => ?_) fun events file value justified =>
      justified.invalidate piece
    by_cases same : other = piece
    · simp [same] at there
    · rw [Function.update_of_ne same] at there
      exact sound.bounded other there
  | popAlerts =>
    simp only [Cache.step] at taken
    split at taken <;> cases taken
    next released =>
      have same : before.commands ++ before.alerts ++ [] = before.pending := List.append_nil _
      refine ⟨sound.bounded, fun layout found => ?_, fun layout loaded => ?_, sound.once, sound.idle,
        fun layout found fileIdx complete member => ?_⟩
      · rw [Cache.pending, same]
        exact sound.layout layout found
      · rw [Cache.pending, same]
        exact sound.loading layout loaded
      · exact absurd (List.any_eq_true.mpr ⟨_, member, rfl⟩) released
  | handle =>
    simp only [Cache.step] at taken
    split at taken <;> cases taken
    next event commands waiting => exact sound.handle waiting faithful
  | loadRead files =>
    simp only [Cache.step] at taken
    split at taken <;> cases taken
    next absent unloaded =>
      refine { sound with loading := fun layout loaded => ?_, once := .inl absent }
      cases loaded
      refine ⟨⟨files, rfl⟩, fun fileIdx file value listed cached => ?_⟩
      obtain ⟨rfl, marked⟩ := cached_queryLayout listed cached
      exact faithful file (List.mem_of_getElem? listed) marked
  | loadSet =>
    simp only [Cache.step] at taken
    split at taken <;> cases taken
    next layout loaded =>
      have unused : before.layout = none := sound.once.resolve_right (by simp [loaded])
      refine ⟨sound.bounded, fun other same => ?_, fun other none => ?_, .inr rfl, fun absent => ?_,
        fun other same fileIdx complete member => ?_⟩
      · cases same
        exact (sound.loading layout loaded).2
      · cases none
      · cases absent
      · rw [sound.idle unused] at member
        cases member
  | loadAbandon =>
    cases taken
    refine { sound with loading := fun layout loaded => ?_, once := .inr rfl }
    cases loaded
  | query fileIdx =>
    simp only [Cache.step] at taken
    split at taken <;> cases taken
    next loaded =>
      refine sound.dropQueries (fun other complete member => ?_) fun absent => ?_
      · rcases List.mem_append.mp member with earlier | new
        · exact earlier
        · cases List.mem_singleton.mp new
      · rw [absent] at loaded
        cases loaded
  | advance index torrentFound =>
    obtain ⟨query, present, continued⟩ := Option.bind_eq_some_iff.mp taken
    obtain ⟨layout, found, advanced⟩ := Option.bind_eq_some_iff.mp continued
    exact sound.advance found present advanced
  | abandon index =>
    simp only [Cache.step] at taken
    split at taken <;> cases taken
    exact sound.dropQueries (fun _ _ member => List.mem_of_mem_eraseIdx member) fun absent => by
      rw [sound.idle absent]
      rfl
  | remove =>
    cases taken
    refine ⟨sound.bounded, fun _ found => ?_, fun _ loaded => ?_, .inl rfl, fun _ => rfl,
      fun _ found => ?_⟩
    · cases found
    · cases loaded
    · cases found

end Steps

theorem coherent_of_sound {cache : Cache} (sound : Sound cache) : Coherent cache := by
  intro noAlerts noCommands _ layout found fileIdx file value listed cached
  have justified := sound.layout layout found fileIdx file value listed cached
  have nothing : cache.pending = [] := by simp [Cache.pending, noAlerts, noCommands]
  rw [nothing] at justified
  cases value with
  | true =>
    refine ⟨fun _ piece inside => ?_, fun _ => rfl⟩
    exact (justified piece inside).resolve_right List.not_mem_nil
  | false =>
    obtain ⟨piece, inside, reason⟩ := justified
    have missing := reason.resolve_right List.not_mem_nil
    refine ⟨Bool.noConfusion, fun every => ?_⟩
    rw [every piece inside] at missing
    cases missing

theorem sound_new (numPieces : Int) : Sound (.new numPieces) := by
  constructor <;> simp [Cache.new]

theorem always_coherent (numPieces : Int) (actions : List Action)
    (faithful : Meets LoadsFaithfully Cache.step (.new numPieces) actions) :
    Always Coherent Cache.step (.new numPieces) actions := by
  have sound : Always Sound Cache.step (.new numPieces) actions :=
    always_of_meets (fun _ _ _ sound permitted taken => step_sound sound permitted taken)
      (sound_new numPieces) faithful
  exact sound.mono fun _ => coherent_of_sound

-- A query of a file of two pieces reads the presence before the second piece is verified and writes
-- after it; its answer is cleared when the event comes through.
def queryRacesVerification : List Action :=
  [.loadRead [⟨32, 16, 0, 1⟩], .loadSet, .verify 0, .popAlerts, .handle, .query 0, .advance 0 true,
    .advance 0 true, .verify 1, .advance 0 true, .popAlerts, .handle]

theorem query_racing_verification_is_coherent :
    Meets LoadsFaithfully Cache.step (.new 2) queryRacesVerification ∧
      Always Coherent Cache.step (.new 2) queryRacesVerification := by
  have faithful : Meets LoadsFaithfully Cache.step (.new 2) queryRacesVerification := by
    refine meets_cons rfl ?_ (meets_cons rfl trivial (meets_cons rfl trivial (meets_cons rfl trivial
      (meets_cons rfl ?_ (meets_cons rfl trivial (meets_cons rfl trivial (meets_cons rfl trivial
      (meets_cons rfl trivial (meets_cons rfl trivial (meets_cons rfl trivial
      (meets_cons rfl ?_ trivial)))))))))))
    · intro file member marked
      cases List.mem_singleton.mp member
      exact absurd marked (by decide)
    · intro piece commands layout _ loaded
      cases loaded
    · intro piece commands layout _ loaded
      cases loaded
  exact ⟨faithful, always_coherent 2 _ faithful⟩

-- The second piece of the file has all its blocks and has not passed its hash check when the layout
-- is loaded.
theorem unverified_blocks_are_cached_as_complete :
    ∃ final layout, run Cache.step (.new 2)
        [.verify 0, .popAlerts, .handle, .loadRead [⟨32, 32, 0, 1⟩], .loadSet] = some final ∧
      final.alerts = [] ∧ final.commands = [] ∧ final.queries = [] ∧ final.layout = some layout ∧
      layout.cached 0 = some true ∧ final.present 1 = false ∧ ¬ Coherent final := by
  refine ⟨_, _, rfl, rfl, rfl, rfl, rfl, rfl, rfl, fun coherent => ?_⟩
  have complete := (coherent rfl rfl rfl _ rfl 0 ⟨32, 32, 0, 1⟩ true rfl rfl).mp rfl 1 (by decide)
  exact absurd complete (by decide)

end StreamServer.Playback.Completion
