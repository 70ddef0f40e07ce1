import Signpost.Proofs.Navigator.Ending
import Signpost.Proofs.Navigator.Return
import Signpost.Proofs.Navigator.Tour

/-! Walks with a limit end.

Blocks may lead to each other for ever, and a walk may pass through blocks without any key. But a stay
that is left for another block has spent a step, and one that has spent none is left by stepping back,
which shortens the trail. -/

namespace Signpost

namespace Navigator

open Act Session

variable {World : Type} {n : Navigator World} {limit visits steps : Nat} {course after : Course World}
  {result : Except Halt (Except WalkError Summary)}

/-! ## Counting -/

namespace Tours

variable {stays : List (Stay World)} (tours : n.Tours limit visits steps course stays result after)

include tours

theorem counted {summary : Summary} (ended : result = .ok (.ok summary)) :
    summary.steps = steps + (stays.flatMap Stay.reports).length := by
  induction tours with
  | unfinished | nowhere | closed | fails | waits => cases ended
  | moves lodges _ ih =>
    rw [ih ended, lodges.counted rfl rfl, List.flatMap_cons, List.length_append, Stay.length_reports,
      Nat.add_assoc]
  | returns lodges _ _ ih =>
    rw [ih ended, lodges.counted rfl rfl, List.flatMap_cons, List.length_append, Stay.length_reports,
      Nat.add_assoc]
  | finishes lodges | stops lodges =>
    cases ended
    rw [List.flatMap_singleton, Stay.length_reports]
    exact lodges.counted rfl rfl

theorem within_limit (limits : limit ≠ 0) (under : steps ≤ limit) :
    steps + (stays.flatMap Stay.reports).length ≤ limit := by
  induction tours with
  | unfinished | nowhere | closed => exact under
  | moves lodges _ ih =>
    have next := lodges.counted rfl rfl
    rw [List.flatMap_cons, List.length_append, Stay.length_reports, ← Nat.add_assoc, ← next]
    exact ih (next ▸ lodges.within_limit (fun _ => under) limits)
  | returns lodges _ _ ih =>
    have next := lodges.counted rfl rfl
    rw [List.flatMap_cons, List.length_append, Stay.length_reports, ← Nat.add_assoc, ← next]
    exact ih (next ▸ lodges.within_limit (fun _ => under) limits)
  | finishes lodges | stops lodges | fails lodges | waits lodges =>
    rw [List.flatMap_singleton, Stay.length_reports]
    exact lodges.within_limit (fun _ => under) limits

theorem limited {other total : Nat} (stopped : result = .ok (.ok ⟨.stepLimit other, total⟩)) :
    other = limit ∧ limit ≤ total ∧
      ∃ stay, stays.getLast? = some stay ∧ stay.paces.length < stay.entries.length := by
  induction tours with
  | unfinished | nowhere | closed | finishes | fails | waits => cases stopped
  | moves _ _ ih | returns _ _ _ ih =>
    obtain ⟨same, reached, stay, last, short⟩ := ih stopped
    exact ⟨same, reached, stay, List.mem_getLast?_cons last, short⟩
  | stops lodges =>
    cases stopped
    obtain ⟨loaded, -, stays⟩ := lodges.loads
    obtain ⟨same, reached, short⟩ := stays.limited_short rfl
    exact ⟨same, reached, _, rfl, short⟩

end Tours

/-! ## Ending -/

/-- Each single dispatch ends for whoever waits long enough. -/
def Returns (n : Navigator World) : Prop := ∀ (key : String) (command : Value) (course : Course World),
  ∃ patience, ((n.within patience).dispatch key command course).1 ≠ .error .exhausted

theorem walkBlock_returns (returns : n.Returns) (limit : Nat) (location : Location) (entries : Block)
    (steps : Nat) (course : Course World) : ∃ patience,
      ((n.within patience).walkBlock limit location steps entries course).1 ≠ .error .exhausted := by
  induction entries generalizing steps course with
  | nil => exact ⟨n.patience, ok_ne_exhausted _⟩
  | cons entry rest ih =>
    obtain ⟨key, command⟩ := entry
    by_cases reached : (limit != 0 && decide (limit ≤ steps)) = true
    · refine ⟨n.patience, ?_⟩
      rw [walkBlock_cons, if_pos reached]
      exact ok_ne_exhausted _
    · obtain ⟨first, ends⟩ := returns key command course
      rcases ran : Act.attempt ((n.within first).dispatch key command) course with
        ⟨halt | result, mid⟩
      · exact absurd (congrArg Prod.fst (of_attempt_error ran).2) ends
      · cases turns : turn? (steps + 1) key result with
        | some turn =>
          refine ⟨first, ?_⟩
          rw [walkBlock_cons, if_neg reached, ran]
          simp only [turns]
          exact ok_ne_exhausted _
        | none =>
          obtain ⟨second, later⟩ := ih (steps + 1) (n.reported location key result mid)
          have both : Act.attempt ((n.within (first.join second)).dispatch key command) course =
              (.ok result, mid) := by
            refine Eq.trans (Act.Approximates.attempt ((n.within first).dispatch_approximates
              (first.le_join_left second) key command) course ?_) ran
            rw [ran]
            exact ok_ne_exhausted _
          have same := (n.within second).walkBlock_approximates (first.le_join_right second) limit
            location (steps + 1) rest _ later
          refine ⟨first.join second, ?_⟩
          rw [walkBlock_cons, if_neg reached, both]
          simp only [turns]
          exact same.symm ▸ later

theorem walkFrom_of_onward {first second : Patience} {location : Location} {entries : Block}
    {loaded left : Course World} {turn : Turn}
    (located : course.session.location? = some location)
    (opened : n.currentBlock course = (.ok entries, loaded))
    (stayed : (n.within first).walkBlock limit location steps entries loaded = (.ok turn, left))
    (ends : ((n.within second).onward limit visits turn left).1 ≠ .error .exhausted) :
    ((n.within (first.join second)).walkFrom limit (visits + 1) steps course).1 ≠
      .error .exhausted := by
  have both : (n.within (first.join second)).walkBlock limit location steps entries loaded =
      (.ok turn, left) := by
    refine Eq.trans ((n.within first).walkBlock_approximates (first.le_join_left second) limit location
      steps entries loaded ?_) stayed
    rw [stayed]
    exact ok_ne_exhausted _
  have goesOn := (n.within second).walkFrom_approximates (first.le_join_right second)
    (Nat.le_refl visits) limit
  have same : ((n.within second).onward limit visits turn).Approximates
      ((n.within (first.join second)).onward limit visits turn) := by
    cases turn with
    | enter next => exact goesOn next
    | leave next =>
      refine .andThen fun outcome => ?_
      split
      · exact goesOn next
      · exact .refl _
    | stop | failed => exact .refl _
  have opened : (n.within (first.join second)).currentBlock course = (.ok entries, loaded) := opened
  rw [walkFrom_opened located opened, bind_ok both, same left ends]
  exact ends

/-- A step back that arrives has taken the end of the trail. -/
theorem goBack_shortens {location : Location} {back : Course World}
    (returned : n.goBack course = (.ok (.relocated location), back)) :
    back.session.trail.length < course.session.trail.length := by
  let s := course.session.clearPending
  cases destination : (s.breadcrumbs.back s.scope).1 with
  | none =>
    unfold goBack at returned
    rw [stepBack_of_none destination] at returned
    cases returned
  | some there =>
    unfold goBack at returned
    rw [stepBack_of_some destination] at returned
    cases returned
    have kept : s.trail ≠ [] := by
      intro empty
      rw [Session.back_destination, empty] at destination
      cases destination
    calc ((s.breadcrumbs.back s.scope).2.trail s.scope).length
      _ = s.trail.length - 1 := by rw [Breadcrumbs.trail_back_self, List.length_dropLast]; rfl
      _ < s.trail.length := Nat.sub_lt (List.length_pos_iff.mpr kept) Nat.one_pos

/-- A stay without a key leaves the session as it was on entry. -/
theorem Stays.idle {location : Location} {entries : Block} {turn : Turn}
    (stays : n.Stays limit location steps entries course [] (.ok turn) after) : after = course := by
  cases stays <;> rfl

theorem Stays.enters {location : Location} {entries : Block} {paces : List (Pace World)} {next : Nat}
    (stays : n.Stays limit location steps entries course paces (.ok (.enter next)) after) :
    0 < paces.length := by
  cases stays <;> exact Nat.succ_pos _

theorem Stays.shrinks {location there : Location} {entries : Block} {paces : List (Pace World)}
    {next : Nat} {loaded left back : Course World}
    (stays : n.Stays limit location steps entries loaded paces (.ok (.leave next)) left)
    (limits : limit ≠ 0) (under : steps ≤ limit)
    (opened : n.currentBlock course = (.ok entries, loaded))
    (returned : n.goBack left = (.ok (.relocated there), back)) :
    limit - next < limit - steps ∨ limit - next = limit - steps ∧
      back.session.trail.length < course.session.trail.length := by
  have within := stays.within_limit limits under
  have spent := stays.counted rfl rfl
  cases paces with
  | nil =>
    have still : left.session = course.session := stays.idle ▸ n.currentBlock_still.of_run opened
    exact .inr ⟨by rw [spent]; rfl, still ▸ goBack_shortens returned⟩
  | cons pace paces =>
    rw [List.length_cons] at spent within
    exact .inl (by omega)

theorem walkFrom_returns (returns : n.Returns) (limits : limit ≠ 0) (steps : Nat)
    (under : steps ≤ limit) (course : Course World) : ∃ patience visits,
      ((n.within patience).walkFrom limit visits steps course).1 ≠ .error .exhausted := by
  cases located : course.session.location? with
  | none => exact ⟨n.patience, 1, by rw [walkFrom_nowhere located]; exact ok_ne_exhausted _⟩
  | some location =>
    rcases n.currentBlock_cases course with ⟨error, closed, refused⟩ | ⟨entries, loaded, opened⟩
    · have refused : (n.within n.patience).currentBlock course = (.error (.refused error), closed) :=
        refused
      exact ⟨n.patience, 1, by rw [walkFrom_closed located refused]; exact ok_ne_exhausted _⟩
    · obtain ⟨first, ends⟩ := walkBlock_returns returns limit location entries steps loaded
      rcases stayed : (n.within first).walkBlock limit location steps entries loaded with
        ⟨halt | turn, left⟩
      · rw [stayed] at ends
        obtain ⟨paces, stays⟩ := stays_of_walkBlock stayed
        cases stays.exhausted rfl
        exact absurd rfl ends
      · obtain ⟨paces, stays⟩ := stays_of_walkBlock stayed
        suffices rest : ∃ patience visits,
            ((n.within patience).onward limit visits turn left).1 ≠ .error .exhausted by
          obtain ⟨second, visits, ends⟩ := rest
          exact ⟨_, visits + 1, walkFrom_of_onward located opened stayed ends⟩
        have within := stays.within_limit limits under
        cases turn with
        | stop | failed => exact ⟨first, 0, ok_ne_exhausted _⟩
        | enter next =>
          -- a step is spent whenever a block is entered; leaving one may spend none, but shortens
          -- the trail
          have spent := stays.counted rfl rfl
          have dispatched := stays.enters
          exact walkFrom_returns returns limits next (by omega) left
        | leave next =>
          have spent := stays.counted rfl rfl
          rcases goBack_cases (n := n) left with ⟨there, back, returned⟩ | ⟨back, stuck⟩
          · have less := stays.shrinks limits under opened returned
            obtain ⟨second, visits, ends⟩ :=
              walkFrom_returns returns limits next (by omega) back
            refine ⟨second, visits, ?_⟩
            have returned : (n.within second).goBack left = (.ok (.relocated there), back) := returned
            rw [onward, bind_ok returned]
            exact ends
          · have stuck : (n.within first).goBack left = (.ok .empty, back) := stuck
            exact ⟨first, 0, by rw [onward, bind_ok stuck]; exact ok_ne_exhausted _⟩
termination_by (limit - steps, course.session.trail.length)
decreasing_by
  · exact .left _ _ (by omega)
  · rcases less with less | ⟨same, less⟩
    · exact .left _ _ less
    · rw [same]
      exact .right _ less

theorem walk_returns (returns : n.Returns) (limits : limit ≠ 0) (path : Option String)
    (course : Course World) :
    ∃ patience, ((n.within patience).walk path limit course).1 ≠ .error .exhausted := by
  have walked (course : Course World) : ∃ patience : Patience,
      ((n.within patience).walkFrom limit patience.visits 0 course).1 ≠ .error .exhausted := by
    obtain ⟨least, visits, ends⟩ := walkFrom_returns returns limits 0 (Nat.zero_le _) course
    let enough := least.join ⟨0, 0, visits⟩
    have same := (n.within least).walkFrom_approximates (least.le_join_left ⟨0, 0, visits⟩)
      (Nat.le_max_right least.visits visits) limit 0 course ends
    exact ⟨enough, same ▸ ends⟩
  cases path with
  | none => exact walked course
  | some path =>
    rcases began : Act.attempt (n.start path) course with ⟨halt | error | location, mid⟩
    · exact absurd (congrArg Prod.fst began) (n.start_ends path).attempt
    · refine ⟨n.patience, ?_⟩
      have began : Act.attempt ((n.within n.patience).start path) course =
        (.ok (.error error), mid) := began
      rw [walk, bind_ok began]
      exact ok_ne_exhausted _
    · obtain ⟨patience, ends⟩ := walked mid
      have began : Act.attempt ((n.within patience).start path) course = (.ok (.ok location), mid) :=
        began
      refine ⟨patience, ?_⟩
      rw [walk, bind_ok began]
      exact ends

/-- A walk is never refused: it tells why it has ended. -/
theorem Tours.ended {stays : List (Stay World)}
    (tours : n.Tours limit visits steps course stays result after)
    (ends : result ≠ .error .exhausted) : ∃ ended, result = .ok ended := by
  induction tours with
  | unfinished | waits => exact absurd rfl ends
  | moves _ _ ih | returns _ _ _ ih => exact ih ends
  | nowhere | closed | finishes | stops | fails => exact ⟨_, rfl⟩

namespace Walks

variable {path : Option String} {stays : List (Stay World)}
  (walks : n.Walks limit path course stays result after)

include walks

theorem ended (ends : result ≠ .error .exhausted) : ∃ ended, result = .ok ended := by
  cases walks with
  | resumed tours | started _ tours => exact tours.ended ends
  | refused => exact ⟨_, rfl⟩

theorem within_limit (limits : limit ≠ 0) : (stays.flatMap Stay.reports).length ≤ limit := by
  cases walks with
  | resumed tours | started _ tours =>
    have within := tours.within_limit limits (Nat.zero_le _)
    rwa [Nat.zero_add] at within
  | refused => exact Nat.zero_le _

theorem counted {summary : Summary} (ended : result = .ok (.ok summary)) :
    summary.steps = (stays.flatMap Stay.reports).length := by
  cases walks with
  | resumed tours | started _ tours => exact (tours.counted ended).trans (Nat.zero_add _)
  | refused => cases ended

theorem limited {other total : Nat} (stopped : result = .ok (.ok ⟨.stepLimit other, total⟩)) :
    other = limit ∧ limit ≤ total ∧
      ∃ stay, stays.getLast? = some stay ∧ stay.paces.length < stay.entries.length := by
  cases walks with
  | resumed tours | started _ tours => exact tours.limited stopped
  | refused => cases stopped

end Walks

/-- A walk with a limit ends, wherever its blocks lead. It has not dispatched more keys than the limit
allows, it says how many these were, and if it stops at the limit there were as many as that and there
is a next key. -/
theorem limited_walk_ends (returns : n.Returns) (limits : limit ≠ 0) (path : Option String)
    (course : Course World) : ∃ patience stays ended after,
      (∀ longer, patience ≤ longer →
        (n.within longer).walk path limit course = (.ok ended, after)) ∧
      (n.within patience).Walks limit path course stays (.ok ended) after ∧
      after.reports = course.reports ++ stays.flatMap Stay.reports ∧
      (stays.flatMap Stay.reports).length ≤ limit ∧
      ∀ summary, ended = .ok summary → summary.steps = (stays.flatMap Stay.reports).length ∧
        ∀ other, summary.ending = .stepLimit other → other = limit ∧ summary.steps = limit ∧
          ∃ stay, stays.getLast? = some stay ∧ stay.paces.length < stay.entries.length := by
  obtain ⟨patience, ends⟩ := walk_returns returns limits path course
  rcases walked : (n.within patience).walk path limit course with ⟨result, after⟩
  obtain ⟨stays, walks⟩ := walks_of_walk walked
  obtain ⟨ended, rfl⟩ := walks.ended fun exhausted => ends (by rw [walked, exhausted])
  refine ⟨patience, stays, ended, after, fun longer more => ?_, walks, walks.reports,
    walks.within_limit limits, fun summary told => ?_⟩
  · exact ((n.within patience).walk_approximates more path limit course ends).trans walked
  · subst told
    have counted := walks.counted rfl
    refine ⟨counted, fun other stopped => ?_⟩
    obtain ⟨ending, total⟩ := summary
    subst stopped
    obtain ⟨same, reached, last⟩ := walks.limited rfl
    have within := walks.within_limit limits
    exact ⟨same, Nat.le_antisymm (counted ▸ within) reached, last⟩

namespace Sample

def corridor : Course Script where
  session := Session.new .blocking
  world := { documents := [("/app", .ok {
    path := "/app"
    blocks := [("main", [("aside", .str "link(.hall)")]), ("hall", [])] })] }

theorem navigator_returns : navigator.Returns := by
  intro key command course
  have limited : 1 ≤ navigator.settings.retryLimit := by decide
  have bounded := bounded_patienceFor Script.host_spends limited course.world.lines.length
  have concludes := bounded.dispatch_concludes (Nat.lt_succ_self _) key command
  exact ⟨_, (concludes course (Nat.le_refl _)).1⟩

/-- Without a limit the user would be led to the empty block and back again for ever. -/
theorem limited_walk_ends_corridor :
    ∃ patience, ∀ longer, patience ≤ longer →
      ((navigator.within longer).walk (some "/app") 3 corridor).1 = .ok (.ok ⟨.stepLimit 3, 3⟩) := by
  obtain ⟨patience, stays, ended, after, same, -⟩ :=
    limited_walk_ends navigator_returns (show 3 ≠ 0 by decide) (some "/app") corridor
  let ample : Patience := ⟨1, 1, 8⟩
  have stopped : ((navigator.within ample).walk (some "/app") 3 corridor).1 =
      .ok (.ok ⟨.stepLimit 3, 3⟩) := by
    decide +kernel
  have ends : ((navigator.within ample).walk (some "/app") 3 corridor).1 ≠ .error .exhausted := by
    rw [stopped]
    exact ok_ne_exhausted _
  have joined := (navigator.within ample).walk_approximates (patience.le_join_right ample) (some "/app")
    3 corridor ends
  have told := (same _ (patience.le_join_left ample)).symm.trans joined
  rw [← told] at stopped
  refine ⟨patience, fun longer more => ?_⟩
  rw [same longer more]
  exact stopped

end Sample

end Navigator

end Signpost
