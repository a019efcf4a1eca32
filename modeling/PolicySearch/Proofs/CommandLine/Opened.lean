import PolicySearch.CommandLine.Run
import PolicySearch.Proofs.Server.Pages
/-! The session of one command beside the service of a server on the same root. Both load the same, and
the command opens the branch that a call of the server would mean; so it finds what such a call is
answered from. -/
namespace PolicySearch

theorem Session.receiveAllKeepsQuery (s : Session) (generation : Nat)
    (outcomes : List (Kind × Outcome)) : (s.receiveAll generation outcomes).session.query = s.query := by
  rw [receiveAllSession]
  induction outcomes generalizing s with
  | nil => rfl
  | cons head rest ih => exact (ih _).trans (receiveKeepsQuery ..)

namespace Online

variable {o : Online} {web : Web}

/- Without a cache it does not matter what was asked before. -/
theorem finishAside (plain : o.client.cacheStem = none) (web : Web) (t : Trail) (effect : Effect) :
    ({ o with trail := t }.finish web effect).session = (o.finish web effect).session := by
  unfold finish
  cases effect.begun with
  | none => rfl
  | some rebuild =>
    unfold Client.gather
    cases effect.session.fetches with
    | true => simp only [if_true, Client.plainKinds plain]
    | false => rfl

theorem loadAside (plain : o.client.cacheStem = none) (web : Web) (t : Trail) :
    ({ o with trail := t }.load web).session = (o.load web).session := by
  have listing : (o.client.listBranches web t).1 = (o.client.listBranches web o.trail).1 :=
    (Client.plainCall plain web t _).trans (Client.plainCall plain web o.trail _).symm
  unfold load
  dsimp only
  rw [listing, finishAside plain web _, finishAside plain web (o.client.listBranches web o.trail).2]

theorem finishClient (o : Online) (web : Web) (effect : Effect) :
    (o.finish web effect).client = o.client := by
  unfold finish
  split <;> rfl

theorem loadClient (o : Online) (web : Web) : (o.load web).client = o.client :=
  finishClient _ web _

theorem finishKeepsQuery (o : Online) (web : Web) (effect : Effect) :
    (o.finish web effect).session.query = effect.session.query := by
  unfold finish
  split
  · rfl
  · exact Session.receiveAllKeepsQuery ..

theorem loadKeepsQuery (o : Online) (web : Web) : (o.load web).session.query = o.session.query :=
  (finishKeepsQuery ..).trans (Session.loadKeepsQuery ..)

theorem selectKeepsQuery (o : Online) (web : Web) (branch : String) :
    (o.select web branch).session.query = o.session.query :=
  (finishKeepsQuery ..).trans (Session.selectKeepsQuery ..)

end Online

theorem Service.startedAs {settings : Settings} {limit : Option Amount} (web : Web)
    (chosen : Session.chooseLimit none settings = .ok limit) :
    ∃ service, Service.start web settings = .ok service ∧
      service.client = { root := settings.root settings.apiUrl } ∧
      ∀ t, service.server.session = (Online.load
        { client := service.client, session := { limit := limit }, trail := t } web).session := by
  unfold Service.start
  rw [chosen]
  refine ⟨_, rfl, rfl, fun t => ?_⟩
  exact (Online.loadAside rfl web t).symm


namespace Command
open Service

variable {service : Service} {name : String} {branch : Option String}

/- A place of commands beside a service of the server: they have the same client, and load alike. -/
structure Place.Beside (p : Place) (service : Service) (limit : Option Amount) : Prop where
  rested : service.Rested p.web
  client : p.client = service.client
  limited : Session.chooseLimit none p.settings = .ok limit
  loaded : ∀ t, service.server.session = (Online.load
    { client := service.client, session := { limit := limit }, trail := t } p.web).session

theorem selectWhole {web : Web} (rested : service.Rested web) {o : Online}
    (client : o.client = service.client) (loaded : o.session = service.server.session)
    (listed : (service.server.session.branch? (.str name)).isSome = true) :
    (o.select web name).session.current = some name ∧
      (o.select web name).session.index = (service.client.backend web).index name := by
  obtain ⟨known, found⟩ := Option.isSome_iff_exists.1 listed
  obtain rfl := Json.str.inj (Session.branchNamed found).1
  have selected : o.session.select (.str known.id) =
      ({ service.server.session with current := some known.id } : Session).beginRebuild
        known.id := by
    rw [loaded, Session.select, found]
  have whole := Online.finishWhole (s := service.server.session) o web
    (client ▸ rested.plain) (congrArg Effect.begun selected) (congrArg Effect.session selected)
    rested.free.rested rested.sourced.unbarred
  rw [Online.select, whole, selected, client]
  exact ⟨rfl, rfl⟩

/- The session that a command opens is of the branch that is meant, and what it finds is all there. -/
theorem opened {web : Web} (rested : service.Rested web) {o : Online}
    (client : o.client = service.client) (loaded : (o.load web).session = service.server.session)
    (meant : service.server.session.meant branch = some name) :
    requireBranch (openSession o web branch).session branch = .ok name ∧
      ∀ query, (openSession o web branch).session.search query = service.found web name query := by
  have here (selected : service.server.session.current = some name) (query : Query) :
      (o.load web).session.search query = service.found web name query := by
    rw [loaded]
    exact Session.foundSame selected (rested.indexOf selected) query
  unfold Session.meant at meant
  unfold openSession requireBranch
  cases named : Settings.filled branch with
  | none =>
    rw [named] at meant
    dsimp only at meant ⊢
    rw [loaded, meant, ← loaded]
    exact ⟨rfl, here meant⟩
  | some asked =>
    rw [named] at meant
    obtain ⟨listed, same⟩ := Option.ite_none_right_eq_some.1 meant
    obtain rfl := Option.some.inj same
    by_cases selected : (o.load web).session.current = some asked
    · simp only [selected, if_true]
      exact ⟨trivial, here (loaded ▸ selected)⟩
    · obtain ⟨current, index⟩ := selectWhole rested
        ((Online.loadClient o web).trans client) loaded listed
      simp only [selected, if_false, current, if_true]
      exact ⟨trivial, Session.foundSame current index⟩

theorem openSessionKeepsQuery (o : Online) (web : Web) (branch : Option String) :
    (openSession o web branch).session.query = o.session.query := by
  unfold openSession
  dsimp only
  split
  · exact Online.loadKeepsQuery o web
  · split
    · exact Online.loadKeepsQuery o web
    · exact (Online.selectKeepsQuery ..).trans (Online.loadKeepsQuery o web)

/- What is found once the mode and the text are set, one after the other, is what is found for both. -/
theorem foundOnceSet {s : Session} {old : String} (worded : s.query.text = .str old) (mode : Mode)
    (text : String) : found s mode text = .ok (s.search ⟨mode, text⟩) := by
  have own : Mode.ofJson (.str mode.word) = .ok mode := by
    cases mode with
    | all => rfl
    | only facet => cases facet <;> rfl
  have moded : s.withQuery { s.query with mode := mode } =
      ({ s with query := ⟨mode, .str old⟩ }, .ok (s.search ⟨mode, old⟩)) := by
    dsimp only
    rw [worded]
    rfl
  rw [found, Session.setModeNamed own, moded]
  rfl

theorem unopened {web : Web} (rested : service.Rested web) {o : Online}
    (loaded : (o.load web).session = service.server.session)
    (unmeant : service.server.session.meant branch = none) :
    ∃ complaint, requireBranch (openSession o web branch).session branch = .error complaint := by
  unfold Session.meant at unmeant
  unfold openSession requireBranch
  cases named : Settings.filled branch with
  | none =>
    rw [named] at unmeant
    dsimp only at unmeant ⊢
    rw [loaded, unmeant]
    exact ⟨_, rfl⟩
  | some asked =>
    rw [named] at unmeant
    have unlisted : service.server.session.branch? (.str asked) = none := by simpa using unmeant
    have other : (o.load web).session.current ≠ some asked := by
      intro selected
      have listed := rested.orderly.listed asked (loaded ▸ selected)
      rw [unlisted] at listed
      cases listed
    have ignored := Session.selectUnknown (loaded ▸ unlisted)
    have stays : ((o.load web).select web asked).session = (o.load web).session := by
      rw [Online.select, Online.finishIdle ignored.2, ignored.1]
    simp only [other, if_false, stays]
    exact ⟨_, rfl⟩

end Command

end PolicySearch
