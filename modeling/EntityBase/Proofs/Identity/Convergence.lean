import EntityBase.Proofs.Identity.Race
import Std.Internal.Do.WP.Lemmas

namespace EntityBase

/-!
# Racing callers converge

However callers take turns, those that return successfully agree.  What a body
has been answered is in its transaction's snapshot, found or made there, and
stays in it.  A commit that succeeds, with or without writes, takes it into the
committed snapshot, where it stays as well.  And no snapshot has two identities
for one project.
-/

namespace Identity

variable {host : Host} {identityOf : LiveRef → ProjectId} {store later : Store}
  {session moved : Session} {initial : Engine} {allocator : Allocator}

/-! ## What bodies ask and what they get -/

/-- A body binds live objects only, whatever it is answered. -/
def Body.Lawful (host : Host) (identityOf : LiveRef → ProjectId) : Body → Prop
  | .done => True
  | .fail _ => True
  | .adopt _ next => ∀ answer, (next answer).Lawful host identityOf
  | .bind project next =>
      Live host identityOf project ∧ ∀ answer, (next answer).Lawful host identityOf

/-- An answer is true of a snapshot: the entity that it names is there, for what
was asked. -/
def Answer.Holds (store : Store) : Answer → Prop
  | .adopted received own =>
      own.projectId = received.projectId ∧ IsShared store own.id received.projectId
  | .bound project entity =>
      entity.object = project.object ∧ IsBound store entity.id entity.shared project.object ∧
        IsShared store entity.shared project.id

/-- What is left of a body can be done on a snapshot. -/
def Task.Sound (host : Host) (identityOf : LiveRef → ProjectId) (store : Store) : Task → Prop
  | .body rest => rest.Lawful host identityOf
  | .finish project shared next => Live host identityOf project ∧
      (∀ answer, (next answer).Lawful host identityOf) ∧ IsShared store shared.id project.id

section Growing

variable (grows : store.PartOf later)
include grows

theorem IsShared.mono {id : EntityId} {projectId : ProjectId} (isShared : IsShared store id projectId) :
    IsShared later id projectId := by
  rcases isShared with ⟨record, live, shape⟩
  exact ⟨record, grows id record live, shape⟩

theorem IsBound.mono {id shared : EntityId} {object : LiveRef} (isBound : IsBound store id shared object) :
    IsBound later id shared object := by
  rcases isBound with ⟨record, live, shape⟩
  exact ⟨record, grows id record live, shape⟩

theorem Answer.Holds.mono {answer : Answer} (holds : answer.Holds store) : answer.Holds later := by
  cases answer with
  | adopted received own => exact ⟨holds.1, holds.2.mono grows⟩
  | bound project entity => exact ⟨holds.1, holds.2.1.mono grows, holds.2.2.mono grows⟩

theorem Task.Sound.mono {task : Task} (sound : task.Sound host identityOf store) :
    task.Sound host identityOf later := by
  cases task with
  | body rest => exact sound
  | finish project shared next => exact ⟨sound.1, sound.2.1, sound.2.2.mono grows⟩

end Growing

theorem Answer.Holds.isShared {answer : Answer} (holds : answer.Holds store) :
    IsShared store answer.shared answer.projectId := by
  cases answer with
  | adopted received own => exact holds.2
  | bound project entity => exact holds.2.2

/-- A piece of a body's work founds identities.  If its snapshot has only grown,
what is left can be done there, and what has been got is there. -/
theorem Task.advance_founds {task next : Task} {start now : Workspace} {more : List Answer}
    (sound : task.Sound host identityOf start.transaction.store)
    (founded : Founded host identityOf start.transaction.store)
    (advanced : task.advance host start = (next, more, now)) :
    (∃ handed, Writes (Founds host identityOf) start handed now) ∧
      (start.transaction.store.PartOf now.transaction.store →
        next.Sound host identityOf now.transaction.store ∧
          ∀ answer ∈ more, answer.Holds now.transaction.store) := by
  cases task with
  | finish project shared rest =>
      rcases sound with ⟨live, lawful, isShared⟩
      rcases attach_founds live shared start ⟨founded, isShared⟩ with ⟨⟨handed, -, writes⟩, results⟩
      rw [advance] at advanced
      rcases ended : Work.after (attach host project shared) start with ⟨outcome, last⟩
      rw [ended] at writes results advanced
      cases outcome with
      | error error =>
          cases advanced
          exact ⟨⟨handed, writes⟩, fun _ => ⟨lawful _, by simp [Answer.got, Except.toOption]⟩⟩
      | ok entity =>
          cases advanced
          refine ⟨⟨handed, writes⟩, fun grows => ⟨lawful _, fun answer member => ?_⟩⟩
          rcases results entity rfl with ⟨same, isBound⟩
          rw [List.mem_singleton.mp member, same]
          exact ⟨rfl, isBound, isShared.mono grows⟩
  | body rest =>
      cases rest with
      | done =>
          cases advanced
          exact ⟨⟨[], .nothing⟩, fun _ => ⟨sound, by simp⟩⟩
      | fail error =>
          cases advanced
          exact ⟨⟨[], .nothing⟩, fun _ => ⟨sound, by simp⟩⟩
      | adopt received rest =>
          have leads : Leads (Founds host identityOf) 1 (fun store => store.Coherent ∧ Installed store)
              (adopt received) _ := adoptId_founds received.projectId
          rcases leads start ⟨founded.coherent, founded.installed⟩ with ⟨⟨handed, -, writes⟩, results⟩
          rw [advance] at advanced
          rcases ended : Work.after (adopt received) start with ⟨outcome, last⟩
          rw [ended] at writes results advanced
          cases outcome with
          | error error =>
              cases advanced
              exact ⟨⟨handed, writes⟩, fun _ => ⟨sound _, by simp [Answer.got, Except.toOption]⟩⟩
          | ok own =>
              cases advanced
              refine ⟨⟨handed, writes⟩, fun _ => ⟨sound _, fun answer member => ?_⟩⟩
              exact List.mem_singleton.mp member ▸ results own rfl
      | bind project rest =>
          rcases sound with ⟨live, lawful⟩
          rcases seek_founds live start founded with ⟨⟨handed, -, writes⟩, results⟩
          rw [advance] at advanced
          rcases ended : Work.after (seek host project) start with ⟨outcome, last⟩
          rw [ended] at writes results advanced
          rcases outcome with error | entity | shared
          · cases advanced
            exact ⟨⟨handed, writes⟩, fun _ => ⟨lawful _, by simp⟩⟩
          · cases advanced
            refine ⟨⟨handed, writes⟩, fun _ => ⟨lawful _, fun answer member => ?_⟩⟩
            exact List.mem_singleton.mp member ▸ results _ rfl
          · cases advanced
            exact ⟨⟨handed, writes⟩, fun _ => ⟨⟨live, lawful, results _ rfl⟩, by simp⟩⟩

/-! ## Sessions of callers -/

/-- A session in which identities have been founded, and nothing else done. -/
structure Founding (host : Host) (identityOf : LiveRef → ProjectId) (initial : Engine)
    (allocator : Allocator) (session : Session) : Prop where
  creating : session.Creating (Held host) initial allocator
  traced : ∃ lineage, Traced identityOf lineage session
  unregistered : session.Unregistered

namespace Founding

variable (founding : Founding host identityOf initial allocator session)
include founding

theorem committed : Founded host identityOf session.engine.store := by
  rcases founding.traced with ⟨lineage, traced⟩
  exact ⟨traced.committed.coherent, traced.committed.installed,
    traced.committed.oneBinding traced.attested, founding.creating.committed⟩

theorem working {handle : Handle} (member : handle ∈ session.handles) :
    Founded host identityOf handle.transaction.store := by
  rcases founding.traced with ⟨lineage, traced⟩
  have descends := (traced.working handle member).store
  exact ⟨descends.coherent, descends.installed, descends.oneBinding traced.attested,
    (founding.creating.handles handle member).working⟩

theorem reaches (reaches : session.Reaches (Founds host identityOf) moved)
    (unregistered : moved.Unregistered) (few : moved.issued.length < UInt64.size) :
    Founding host identityOf initial allocator moved ∧ session.PartOf moved := by
  rcases founding.creating.reaches (fun _ _ founds => founds.2) unregistered reaches few with
    ⟨creating, grows⟩
  rcases founding.traced with ⟨lineage, traced⟩
  exact ⟨⟨creating, traced.reaches founding.creating.regular.accounted
    (reaches.mono fun _ _ founds => founds.1) few, unregistered⟩, grows⟩

end Founding

/-! ## Turns -/

/-- What a call has got is in the snapshot of its transaction, or in the
committed one after it has returned successfully. -/
def Stage.Sound (host : Host) (identityOf : LiveRef → ProjectId) (session : Session) : Stage → Prop
  | .waiting => True
  | .working place task answers => ∃ handle, session.handles[place]? = some handle ∧
      task.Sound host identityOf handle.transaction.store ∧
      ∀ answer ∈ answers, answer.Holds handle.transaction.store
  | .returned (.ok answers) => ∀ answer ∈ answers, answer.Holds session.engine.store
  | .returned (.error _) => True

structure Call.Sound (host : Host) (identityOf : LiveRef → ProjectId) (session : Session)
    (call : Call) : Prop where
  bodies : ∀ number, (call.body number).Lawful host identityOf
  stage : call.stage.Sound host identityOf session

theorem Call.Sound.mono {call : Call} (sound : call.Sound host identityOf session)
    (grows : session.PartOf moved) : call.Sound host identityOf moved := by
  refine ⟨sound.bodies, ?_⟩
  have stage := sound.stage
  cases reached : call.stage with
  | waiting => trivial
  | working place task answers =>
      rw [reached] at stage
      rcases stage with ⟨handle, found, left, got⟩
      rcases grows.working place handle found with ⟨next, there, more⟩
      exact ⟨next, there, left.mono more, fun answer member => (got answer member).mono more⟩
  | returned result =>
      rw [reached] at stage
      cases result with
      | error error => trivial
      | ok answers => exact fun answer member => (stage answer member).mono grows.committed

variable {call : Call} {place : Nat} {handle : Handle} {answers : List Answer}

/-- If a call that is offered for commit succeeds, it returns with what has been
committed. -/
theorem Call.Sound.settle (sound : call.Sound host identityOf session) {retries : Nat}
    {result : Except Error UInt64}
    (committed : ∀ version, result = .ok version →
      ∀ answer ∈ answers, answer.Holds moved.engine.store) :
    (call.settle retries answers result).Sound host identityOf moved := by
  unfold Call.settle
  split
  · exact ⟨sound.bodies, committed _ rfl⟩
  · split
    · exact ⟨sound.bodies, trivial⟩
    · exact ⟨sound.bodies, trivial⟩

/-- A turn in an attempt founds identities, and leaves its call sound if nothing
is lost. -/
theorem Call.Sound.proceed (sound : call.Sound host identityOf session)
    (founding : Founding host identityOf initial allocator session)
    (few : session.issued.length < UInt64.size) (found : session.handles[place]? = some handle)
    {task : Task} (left : task.Sound host identityOf handle.transaction.store)
    (got : ∀ answer ∈ answers, answer.Holds handle.transaction.store) :
    let after := call.proceed host session place handle answers task
    session.Reaches (Founds host identityOf) after.1 ∧ after.1.Unregistered ∧
      (session.PartOf after.1 → after.2.Sound host identityOf after.1) := by
  have member := List.mem_of_getElem? found
  unfold Call.proceed
  split
  · rename_i all returns
    cases Task.eq_of_result? returns
    refine ⟨.single (Session.commit_moves found), founding.unregistered.commit place handle,
      fun _ => sound.settle fun version commits answer listed => ?_⟩
    rw [Session.engine_commit]
    exact (got answer listed).mono (founding.creating.commit few member commits)
  · exact ⟨.single (Session.rollback_moves found), founding.unregistered,
      fun _ => ⟨sound.bodies, trivial⟩⟩
  · rcases advanced : task.advance host ⟨handle.transaction, session.allocators⟩ with
      ⟨next, more, now⟩
    rcases Task.advance_founds left (founding.working member) advanced with
      ⟨⟨handed, writes⟩, leaves⟩
    simp only [advanced, writes.handed_of]
    refine ⟨writes.reaches found, founding.unregistered, fun grows => ⟨sound.bodies, ?_⟩⟩
    rcases grows.working place handle found with ⟨after, there, further⟩
    cases there.symm.trans (Session.getElem?_put found)
    refine ⟨_, there, (leaves further).1, fun answer listed => ?_⟩
    rcases List.mem_append.mp listed with old | new
    · exact (got answer old).mono further
    · exact (leaves further).2 answer new

theorem Call.Sound.turn (sound : call.Sound host identityOf session)
    (founding : Founding host identityOf initial allocator session)
    (few : session.issued.length < UInt64.size) :
    let after := call.turn host session
    session.Reaches (Founds host identityOf) after.1 ∧ after.1.Unregistered ∧
      (session.PartOf after.1 → after.2.Sound host identityOf after.1) := by
  have stays : session.Reaches (Founds host identityOf) session ∧ session.Unregistered ∧
      (session.PartOf session → call.Sound host identityOf session) :=
    ⟨.refl, founding.unregistered, fun _ => sound⟩
  have stage := sound.stage
  unfold Call.turn
  cases reached : call.stage with
  | returned result => exact stays
  | waiting =>
      refine ⟨.single .begun, founding.unregistered, fun _ => ⟨sound.bodies, ?_⟩⟩
      exact ⟨_, List.getElem?_concat_length, sound.bodies call.number, by simp⟩
  | working place task answers =>
      rw [reached] at stage
      rcases stage with ⟨handle, found, left, got⟩
      simp only [found]
      exact sound.proceed founding few found left got

/-! ## Runs -/

/-- What a race keeps. -/
structure Race.Sound (identityOf : LiveRef → ProjectId) (initial : Engine) (allocator : Allocator)
    (race : Race) : Prop where
  founding : Founding race.host identityOf initial allocator race.session
  calls : ∀ call ∈ race.calls, call.Sound race.host identityOf race.session

namespace Race

variable {race : Race} {turns : List Nat}

theorem Sound.obtained (sound : race.Sound identityOf initial allocator) {answer : Answer}
    (obtained : race.Obtained answer) : answer.Holds race.session.engine.store := by
  rcases obtained with ⟨call, member, answers, returned, listed⟩
  have stage := (sound.calls call member).stage
  rw [returned] at stage
  exact stage answer listed

theorem Sound.step (sound : race.Sound identityOf initial allocator) (caller : Nat)
    (few : (race.step caller).session.issued.length < UInt64.size) :
    (race.step caller).Sound identityOf initial allocator ∧
      race.session.PartOf (race.step caller).session := by
  have fewBefore := Nat.lt_of_le_of_lt (race.issued_step caller).length_le few
  unfold Race.step at few ⊢
  cases found : race.calls[caller]? with
  | none => exact ⟨sound, .refl _⟩
  | some call =>
      simp only [found] at few ⊢
      have member := List.mem_of_getElem? found
      rcases (sound.calls call member).turn sound.founding fewBefore with
        ⟨reaches, unregistered, turned⟩
      rcases sound.founding.reaches reaches unregistered few with ⟨founding, grows⟩
      refine ⟨⟨founding, fun other listed => ?_⟩, grows⟩
      rcases List.mem_or_eq_of_mem_set listed with old | rfl
      · exact (sound.calls other old).mono grows
      · exact turned grows

theorem Sound.run (sound : race.Sound identityOf initial allocator)
    (few : (race.run turns).session.issued.length < UInt64.size) :
    (race.run turns).Sound identityOf initial allocator ∧
      race.session.PartOf (race.run turns).session := by
  induction turns generalizing race with
  | nil => exact ⟨sound, .refl _⟩
  | cons caller rest ih =>
      have fewThen := Nat.lt_of_le_of_lt ((race.step caller).issued_run rest).length_le few
      rcases sound.step caller fewThen with ⟨soundThen, grows⟩
      rcases ih soundThen few with ⟨soundNow, further⟩
      exact ⟨soundNow, grows.trans further⟩

end Race

/-! ## All races -/

/-- How the callers stand that have returned successfully. -/
structure Race.Converged (race : Race) : Prop where
  /-- Those that asked for the same project have got the same shared entity. -/
  oneShared : ∀ first second, race.Obtained first → race.Obtained second →
    first.projectId = second.projectId → first.shared = second.shared
  /-- Those that bound the same object have got the same local entity. -/
  oneLocal : ∀ project another entity other, race.Obtained (.bound project entity) →
    race.Obtained (.bound another other) → project.object = another.object → entity = other
  /-- Of each project they asked for, there is one shared entity. -/
  once : ∀ answer, race.Obtained answer →
    ∃! id, IsShared race.session.engine.store id answer.projectId

theorem Race.Sound.converged {race : Race} (sound : race.Sound identityOf initial allocator) :
    race.Converged := by
  have one := sound.founding.committed.one
  refine ⟨fun first second gotFirst gotSecond same => ?_,
    fun project another entity other gotFirst gotSecond same => ?_, fun answer got => ?_⟩
  · have left := (sound.obtained gotFirst).isShared
    have right := (sound.obtained gotSecond).isShared
    exact one.oneShared _ _ _ left (same ▸ right)
  · rcases sound.obtained gotFirst with ⟨wraps, left, -⟩
    rcases sound.obtained gotSecond with ⟨otherWraps, right, -⟩
    rw [← same] at otherWraps right
    have sameId := one.oneForObject _ _ _ _ _ left right
    rw [← sameId] at right
    rcases entity with ⟨id, shared, object⟩
    rcases other with ⟨otherId, otherShared, otherObject⟩
    cases sameId
    cases (left.eq right).1
    cases wraps.trans otherWraps.symm
    rfl
  · have isShared := (sound.obtained got).isShared
    exact ⟨_, isShared, fun id also => one.oneShared _ _ _ also isShared⟩

variable {world : World} {engine : Engine} {bodies : List (Nat → Body)}

theorem Race.sound_start (mayStart : MayStart world engine)
    (lawful : ∀ body ∈ bodies, ∀ number, (body number).Lawful host identityOf)
    (few : (world.issued engine.store.allocator).length < UInt64.size) :
    (Race.start world engine host bodies).Sound identityOf engine engine.store.allocator := by
  have handedOut := (mayStart.lawful.keeps mayStart.member).handedOut
  have regular := Session.Regular.start mayStart.lawful handedOut
  refine ⟨⟨.start regular fun id record live typed => ?_, ⟨_, mayStart.traced few⟩,
    fun _ => List.not_mem_nil⟩, fun call member => ?_⟩
  · exact absurd typed (mayStart.unbound id record live)
  · rcases List.mem_map.mp member with ⟨body, listed, rfl⟩
    exact ⟨lawful body listed, trivial⟩

/-- Let any callers race, with bodies that bind live objects under their one
project, on an engine that has the identity types and no local entities.  Whatever
one has got that has returned successfully at some moment is committed, and stays
so.  At any moment, all that have returned successfully agree. -/
theorem convergence_of_race {first rest : List Nat} {race later : Race}
    (mayStart : MayStart world engine)
    (lawful : ∀ body ∈ bodies, ∀ number, (body number).Lawful host identityOf)
    (ran : (Race.start world engine host bodies).run first = race)
    (ranOn : race.run rest = later) (few : later.session.issued.length < UInt64.size) :
    (∀ answer, race.Obtained answer → answer.Holds later.session.engine.store) ∧
      later.Converged := by
  subst ran ranOn
  have fewThen := Nat.lt_of_le_of_lt (Race.issued_run _ rest).length_le few
  have fewFirst := Nat.lt_of_le_of_lt (Race.issued_run _ first).length_le fewThen
  have start := Race.sound_start mayStart lawful fewFirst
  have sound := (start.run fewThen).1
  rcases sound.run few with ⟨soundLater, grows⟩
  exact ⟨fun answer got => (sound.obtained got).mono grows.committed, soundLater.converged⟩

namespace Sample

/-- Return at once, with the error if there is one. -/
def ending {α : Type} : Except Error α → Body
  | .ok _ => .done
  | .error error => .fail error

def holder : Host :=
  ({} : Host).take ⟨0⟩ "Project"

/-- An entity of the project from another process. -/
def foreign : SharedEntity :=
  ⟨EntityId.null, ⟨"A"⟩⟩

/-- Two callers adopt the project, and one binds its object. -/
def rivals : Race :=
  .start ground { store := snapshot } holder
    [fun _ => .adopt foreign ending, fun _ => .bind (project 0) ending,
      fun _ => .adopt foreign ending]

/-- The first two create a shared entity each, and the first commits its own. -/
def overtaking : List Nat :=
  [0, 1, 0, 1, 0]

/-- The third finds it. -/
def following : List Nat :=
  [2, 2, 2]

def common : Answer :=
  .adopted foreign ⟨⟨0⟩, ⟨"A"⟩⟩

theorem lawful_ending {α : Type} (host : Host) (identityOf : LiveRef → ProjectId)
    (result : Except Error α) : (ending result).Lawful host identityOf := by
  cases result <;> trivial

theorem live_project : Live holder (fun _ => ⟨"A"⟩) (project 0) where
  constant := rfl
  held := by simp [holder, Host.take, project]

-- Running a body unfolds `StateT.pure`, by an equation from the library's program logic.
theorem first_returns : (rivals.run overtaking).calls[0]?.map Call.stage =
    some (.returned (.ok [common])) := by
  cbv

theorem third_returns : ((rivals.run overtaking).run following).calls[2]?.map Call.stage =
    some (.returned (.ok [common])) := by
  cbv

theorem issued_rivals : ((rivals.run overtaking).run following).session.issued = [⟨0⟩, ⟨1⟩] := by
  cbv

/-- What the call at a place has returned with is obtained. -/
theorem obtained_common {race : Race} {place : Nat}
    (returned : race.calls[place]?.map Call.stage = some (.returned (.ok [common]))) :
    race.Obtained common := by
  rcases Option.map_eq_some_iff.mp returned with ⟨call, found, stage⟩
  exact ⟨call, List.mem_of_getElem? found, [common], stage, List.mem_singleton_self common⟩

end Sample

/-- In the example the second caller is about to lose the shared entity that it has
created.  The two others have got the same, which is the only one. -/
theorem convergence_of_race_rivals : ∃ race later,
    Sample.rivals.run Sample.overtaking = race ∧ race.run Sample.following = later ∧
      later.session.issued = [⟨0⟩, ⟨1⟩] ∧ race.Obtained Sample.common ∧
      later.Obtained Sample.common ∧ Sample.common.Holds later.session.engine.store ∧
      later.Converged ∧ ∃! id, IsShared later.session.engine.store id ⟨"A"⟩ := by
  have lawful : ∀ body ∈ [fun _ : Nat => Body.adopt Sample.foreign Sample.ending,
      fun _ => .bind (Sample.project 0) Sample.ending, fun _ => .adopt Sample.foreign Sample.ending],
      ∀ number, (body number).Lawful Sample.holder fun _ => ⟨"A"⟩ := by
    simp only [List.forall_mem_cons, List.not_mem_nil, false_implies, implies_true, and_true]
    exact ⟨fun _ => Sample.lawful_ending _ _,
      fun _ => ⟨Sample.live_project, Sample.lawful_ending _ _⟩, fun _ => Sample.lawful_ending _ _⟩
  have few : ((Sample.rivals.run Sample.overtaking).run Sample.following).session.issued.length <
      UInt64.size := by
    rw [Sample.issued_rivals]
    decide
  have first := Sample.obtained_common Sample.first_returns
  have third := Sample.obtained_common Sample.third_returns
  rcases convergence_of_race Sample.mayStart lawful rfl rfl few with ⟨present, converged⟩
  exact ⟨_, _, rfl, rfl, Sample.issued_rivals, first, third, present _ first, converged,
    converged.once _ third⟩

end Identity

end EntityBase
