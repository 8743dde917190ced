import ExchangeGrid.Proofs.Watch.Activation

namespace ExchangeGrid
namespace Watch

/-!
# Whose account is activated

Of a new account only the password is kept.  The user that activation is asked for as is the one of
the settings, whatever name the reply tells: `activates_as_username` says with which credentials
each later post goes out, and that these are those of the account just where the names agree.
-/

open Controller (Trial)

variable {files : Net.PemFiles} {config : Config} {transport : Net.Transport}
  {interval times : Nat} {told : List Answered}

/-- What is read well is read from a reply of some host. -/
theorem trials_ne_nil {trials : List Trial} {read : Reply → Except Error Json.Value}
    {value : Json.Value} (comes : (Trial.concluded trials).bind read = .ok value) :
    trials ≠ [] := by
  rintro rfl
  cases comes

theorem credentials_of_asked {credentials : Option (String × String)} {script : Script}
    {post : Post} (member : post ∈ script.asked config transport credentials) :
    post.request.credentials = credentials := by
  rcases List.mem_flatMap.mp member with ⟨round, -, inRound⟩
  rcases List.mem_map.mp inRound with ⟨trial, -, rfl⟩
  rfl

/-- Where there are hosts and rounds, activation is asked for. -/
theorem asked_eq_nil_iff {credentials : Option (String × String)} {script : Script}
    (fits : script.Fits config times) (hosted : config.hosts ≠ []) :
    script.asked config transport credentials = [] ↔ times = 0 := by
  rcases script with ⟨creation, rounds⟩
  rcases fits with ⟨-, rfl, fits⟩
  unfold Script.asked
  cases rounds with
  | nil => exact iff_of_true rfl rfl
  | cons round rounds =>
      refine iff_of_false ?_ (Nat.succ_ne_zero _)
      intro none
      have first : round ∈ upTo Round.isLast (round :: rounds) := by
        rw [upTo_cons]
        split <;> exact List.mem_cons_self
      have untried := upTo_eq_nil_iff.mp
        (List.map_eq_nil_iff.mp (List.flatMap_eq_nil_iff.mp none round first))
      have hosts_eq := fits round List.mem_cons_self
      rw [untried] at hosts_eq
      exact hosted hosts_eq.symm

/-- Behind a reply that tells of an account, activation is asked for as the user of the settings,
with the password of the account: with the credentials of the account just where it has this user's
name. -/
def AsksAsUser (files : Net.PemFiles) (config : Config) (transport : Net.Transport)
    (interval times : Nat) (told : List Answered) : Prop :=
  ∃ script : Script, script.Fits config times ∧ told = script.dialogue config interval ∧
    ∀ name password, (Trial.concluded script.creation).bind Reply.newAccount =
      .ok (accountValue name password) →
    ∃ asked : List Post, (∀ initial, carried files initial told =
        creationSent config transport script.creation ++ asked) ∧
      (asked = [] ↔ times = 0) ∧
      (∀ post ∈ asked, post.request.credentials = some (config.username, password)) ∧
      ((∀ post ∈ asked, post.request.credentials = some (name, password)) ↔
        times = 0 ∨ config.username = name)

theorem activates_as_username {outcome : Except Halt Unit} {after : Config}
    (isMade : Net.Transport.make files config = .ok transport) (needed : needsAccount config)
    (yields : (activate config interval times).Yields told (outcome, after))
    (equipped : Equipped files told) :
    AsksAsUser files config transport interval times told := by
  rcases (yields_activate_iff isMade).mp ⟨yields, equipped⟩ with ⟨script, fits, rfl, -⟩
  refine ⟨script, fits, rfl, ?_⟩
  intro name password account
  have hosted : config.hosts ≠ [] := by
    rw [← fits.creation_hosts]
    exact fun none => trials_ne_nil account (List.map_eq_nil_iff.mp none)
  have nil_iff : script.asked config transport (some (config.username, password)) = [] ↔
      times = 0 := asked_eq_nil_iff fits hosted
  refine ⟨script.asked config transport (some (config.username, password)), ?_, nil_iff,
    fun _ => credentials_of_asked, ?_⟩
  · intro initial
    rw [carried_dialogue isMade, Script.sent, settled_of_account needed account]
    rfl
  constructor
  · intro agree
    refine or_iff_not_imp_left.mpr fun held => ?_
    rcases List.exists_mem_of_ne_nil _ (mt nil_iff.mp held) with ⟨post, member⟩
    have same := (credentials_of_asked member).symm.trans (agree post member)
    exact congrArg Prod.fst (Option.some.inj same)
  · rintro (none | rfl)
    · rw [nil_iff.mpr none]
      exact List.forall_mem_nil _
    · exact fun _ => credentials_of_asked

/-- Settings that name a user other than the node, and no password. -/
def operated : Config :=
  { newcomer with auth := ⟨some "operator", none⟩ }

theorem made_operated : Net.Transport.make (fun _ => none) operated =
    .ok ⟨{}, ⟨.system, none⟩, none, false⟩ :=
  rfl

theorem fits_operated : approval.Fits operated 3 :=
  ⟨rfl, rfl, List.forall_mem_map.mpr fun _ _ => rfl⟩

theorem yields_operated :
    (activate operated 5 3).Yields (approval.dialogue operated 5)
      (.ok (), { operated with auth := ⟨some "operator", some "gen"⟩ }) ∧
    Equipped (fun _ => none) (approval.dialogue operated 5) :=
  (yields_activate_iff made_operated).mpr ⟨approval, fits_operated, rfl, rfl⟩

theorem activates_operated : ∃ transport told,
    Net.Transport.make (fun _ => none) operated = .ok transport ∧ needsAccount operated ∧
    (activate operated 5 3).Yields told
      (.ok (), { operated with auth := ⟨some "operator", some "gen"⟩ }) ∧
    Equipped (fun _ => none) told ∧
    AsksAsUser (fun _ => none) operated transport 5 3 told :=
  ⟨_, _, made_operated, rfl, yields_operated.1, yields_operated.2,
    activates_as_username made_operated rfl yields_operated.1 yields_operated.2⟩

/-- The account is the watcher's, and activation is asked for as the operator. -/
theorem asked_as_operator : ∃ transport told,
    Net.Transport.make (fun _ => none) operated = .ok transport ∧ needsAccount operated ∧
    (activate operated 5 3).Yields told
      (.ok (), { operated with auth := ⟨some "operator", some "gen"⟩ }) ∧
    Equipped (fun _ => none) told ∧
    (accountReply "watcher" "gen").newAccount = .ok (accountValue "watcher" "gen") ∧
    told.filterMap Answered.reply? = [.error (.http "refused"), .ok (accountReply "watcher" "gen"),
      .ok (stateReply "PENDING"), .ok (stateReply "DISABLED"), .ok (stateReply "ENABLED")] ∧
    ¬ ∀ post ∈ carried (fun _ => none) transport told,
      post.url = "https://pan-1:8910/pxgrid/control/AccountActivate" →
      post.request.credentials = some ("watcher", "gen") := by
  refine ⟨_, _, made_operated, rfl, yields_operated.1, yields_operated.2, rfl, rfl, ?_⟩
  intro agree
  have shown : ∀ pair ∈ (carried (fun _ => none) ⟨{}, ⟨.system, none⟩, none, false⟩
      (approval.dialogue operated 5)).map (fun post => (post.url, post.request.credentials)),
      pair.1 = "https://pan-1:8910/pxgrid/control/AccountActivate" →
      pair.2 = some ("watcher", "gen") :=
    List.forall_mem_map.mpr agree
  have sent_eq : (carried (fun _ => none) ⟨{}, ⟨.system, none⟩, none, false⟩
      (approval.dialogue operated 5)).map (fun post => (post.url, post.request.credentials)) =
      [("https://pan-1:8910/pxgrid/control/AccountCreate", none),
        ("https://pan-2:8910/pxgrid/control/AccountCreate", none),
        ("https://pan-1:8910/pxgrid/control/AccountActivate", some ("operator", "gen")),
        ("https://pan-1:8910/pxgrid/control/AccountActivate", some ("operator", "gen")),
        ("https://pan-1:8910/pxgrid/control/AccountActivate", some ("operator", "gen"))] := rfl
  rw [sent_eq] at shown
  have same := shown ("https://pan-1:8910/pxgrid/control/AccountActivate",
    some ("operator", "gen"))
    (List.mem_cons_of_mem _ (List.mem_cons_of_mem _ List.mem_cons_self)) rfl
  exact absurd same (by decide)

end Watch
end ExchangeGrid
