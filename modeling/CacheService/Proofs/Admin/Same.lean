import CacheService.Admin.Service
import CacheService.Proofs.TextStore.Alike

/-!
# Services that answer the same

Two services with the same objects, files, copies and counters answer every request the same and are
the same again afterwards, though the versions of their texts may be different (`Same.respondIn`).
So no requests, however many, tell them apart (`Same.answers`).
-/

namespace CacheService
namespace Service

/-- The same objects, files, copies and counters. Versions of texts may be different. -/
structure Same (s' s : Service) : Prop where
  objects : s'.objects = s.objects
  tier : FastTier.Alike s'.texts.tier s.texts.tier
  stats : s'.texts.stats = s.texts.stats

variable {ρ : Type} {web : Framework ρ} {s s' : Service}

def serve (web : Framework ρ) (request : Surroundings × ρ) (s : Service) : Response × Service :=
  s.respondIn web request.1 request.2

namespace Same

/-- The same services answer the same text. -/
theorem getText (h : Same s' s) (w : Surroundings) (key : TextKey) :
    (s'.getText w key).1 = (s.getText w key).1 ∧
      Same (s'.getText w key).2 (s.getText w key).2 := by
  have hfind := h.tier.find w.free key
  unfold Service.getText TextCache.get
  cases TextName.checkKey key with
  | error e => exact ⟨rfl, h⟩
  | ok u =>
    simp only [FastTier.tier]
    rcases hr : s.texts.tier.find w.free key with ⟨outcome, t⟩
    rcases hr' : s'.texts.tier.find w.free key with ⟨outcome', t'⟩
    rw [hr, hr'] at hfind
    obtain ⟨rfl, htier⟩ := hfind
    rcases outcome' with e | _ | text
    · exact ⟨rfl, h.objects, htier, h.stats⟩
    · exact ⟨rfl, h.objects, htier, congrArg (Stats.record · key.textType false) h.stats⟩
    · exact ⟨rfl, h.objects, htier, congrArg (Stats.record · key.textType true) h.stats⟩

theorem putText (h : Same s' s) (w : Surroundings) (key : TextKey) (contents : String) :
    (s'.putText w key contents).1 = (s.putText w key contents).1 ∧
      Same (s'.putText w key contents).2 (s.putText w key contents).2 := by
  have hwrite := h.tier.write key contents
  unfold Service.putText TextCache.put
  cases TextName.checkKey key with
  | error e => exact ⟨rfl, h⟩
  | ok u =>
    simp only [FastTier.tier]
    rcases hr : s.texts.tier.write key contents with ⟨outcome, t⟩
    rcases hr' : s'.texts.tier.write key contents with ⟨outcome', t'⟩
    rw [hr, hr'] at hwrite
    obtain ⟨rfl, htier⟩ := hwrite
    cases outcome' <;> exact ⟨rfl, h.objects, htier, h.stats⟩

theorem textAge (h : Same s' s) (key : TextKey) :
    (s'.textAge key).1 = (s.textAge key).1 ∧ Same (s'.textAge key).2 (s.textAge key).2 := by
  have hage := h.tier.onFiles fun f => f.age key
  unfold Service.textAge TextCache.onTier
  rcases hr : s.texts.tier.onFiles (fun f => f.age key) with ⟨age, t⟩
  rcases hr' : s'.texts.tier.onFiles (fun f => f.age key) with ⟨age', t'⟩
  rw [hr, hr'] at hage
  obtain ⟨rfl, htier⟩ := hage
  cases age' with
  | error e => exact ⟨rfl, h.objects, htier, h.stats⟩
  | ok age =>
    -- the time is asked for once more, to be shown
    have hmodified := htier.onFiles fun f => f.modified key
    simp only
    rcases hm : t.onFiles (fun f => f.modified key) with ⟨modified, t₁⟩
    rcases hm' : t'.onFiles (fun f => f.modified key) with ⟨modified', t₁'⟩
    rw [hm, hm'] at hmodified
    obtain ⟨rfl, hlast⟩ := hmodified
    cases modified' <;> cases age <;> exact ⟨rfl, h.objects, hlast, h.stats⟩

theorem clearTexts (h : Same s' s) (textType : String) :
    (s'.clearTexts textType).1 = (s.clearTexts textType).1 ∧
      Same (s'.clearTexts textType).2 (s.clearTexts textType).2 := by
  have hclear := h.tier.clear textType
  unfold Service.clearTexts TextCache.onTier
  rcases hr : s.texts.tier.clear textType with ⟨outcome, t⟩
  rcases hr' : s'.texts.tier.clear textType with ⟨outcome', t'⟩
  rw [hr, hr'] at hclear
  obtain ⟨rfl, htier⟩ := hclear
  cases outcome' <;> exact ⟨rfl, h.objects, htier, h.stats⟩

/-- Where the service shows the same, requests are answered the same. -/
theorem perform (h : Same s' s) (w : Surroundings) (r : ρ) (action : Action) :
    (s'.perform web w r action).1 = (s.perform web w r action).1 ∧
      Same (s'.perform web w r action).2 (s.perform web w r action).2 := by
  -- the objects are the same, and texts are answered alike
  cases action with
  | putObject =>
    simp only [Service.perform]
    cases web.putObject r with
    | error refusal => exact ⟨rfl, h⟩
    | ok body =>
      simp only [putObject, h.objects]
      cases body.fault? with
      | some message => exact ⟨rfl, h⟩
      | none => exact ⟨rfl, rfl, h.tier, h.stats⟩
  | resetObjects =>
    simp only [Service.perform, resetObjects]
    rw [h.objects]
    exact ⟨rfl, rfl, h.tier, h.stats⟩
  | getObject key =>
    simp only [Service.perform, getObject, h.objects]
    cases (s.objects.get w.clock w.clock key).1 <;> exact ⟨rfl, rfl, h.tier, h.stats⟩
  | removeObject key =>
    simp only [Service.perform, removeObject, h.objects]
    cases (s.objects.removeAt w.clock key).1 <;> exact ⟨rfl, rfl, h.tier, h.stats⟩
  | guarantee key =>
    simp only [Service.perform]
    cases web.guarantee r with
    | error refusal => exact ⟨rfl, h⟩
    | ok body =>
      simp only [guarantee]
      rw [h.objects]
      exact ⟨rfl, rfl, h.tier, h.stats⟩
  | sweep =>
    simp only [Service.perform, sweep]
    rw [h.objects]
    exact ⟨rfl, rfl, h.tier, h.stats⟩
  | clearTexts textType => exact h.clearTexts textType
  | getText key => exact h.getText w key
  | putText key =>
    simp only [Service.perform]
    cases web.text r with
    | error refusal => exact ⟨rfl, h⟩
    | ok contents => exact h.putText w key contents
  | textAge key => exact h.textAge key
  | stats =>
    simp only [Service.perform, Service.stats, Memory.size]
    rw [h.objects, h.tier.entries, h.stats]
    exact ⟨rfl, h⟩
  | health => exact ⟨rfl, h⟩

/-- The same services answer any request alike, and are the same afterwards. -/
theorem respondIn (h : Same s' s) (w : Surroundings) (r : ρ) :
    (s'.respondIn web w r).1 = (s.respondIn web w r).1 ∧
      Same (s'.respondIn web w r).2 (s.respondIn web w r).2 := by
  unfold Service.respondIn
  cases web.action r with
  | error refusal => exact ⟨rfl, h⟩
  | ok action =>
    obtain ⟨hresponse, hsame⟩ := h.perform w r action
    exact ⟨by simp only [hresponse], hsame⟩

/-- The same services answer requests in a row alike. -/
theorem answers (h : Same s' s) (later : List (Surroundings × ρ)) :
    (answersOf (serve web) later s').1 = (answersOf (serve web) later s).1 := by
  induction later generalizing s s' with
  | nil => rfl
  | cons request rest ih =>
    obtain ⟨hresponse, hsame⟩ :
        _ ∧ Same (s'.respondIn web _ _).2 _ := h.respondIn request.1 request.2
    simp only [answersOf, serve, hresponse, ih hsame]

end Same

end Service
end CacheService
