import MailProvision.Proofs.Steps.Contacts

/-!
# Lists of hosts

A list of hosts is read part by part (`parseHosts_append`), and what is read of a part is a host
(`IsHost`): a text that is not empty, without commas and without white space at either end. Hosts
that are joined by commas are read again as they are (`parseHosts_intercalate`), so the hosts that a
run shows are those that it was given.
-/

namespace MailProvision

namespace Credentials

/-- A text that can be a host of a list. -/
structure IsHost (host : String) : Prop where
  solid : host ≠ ""
  noComma : ',' ∉ host.toList
  starts : ∀ c, host.toList.head? = some c → Text.isBlank c = false
  ends : ∀ c, host.toList.getLast? = some c → Text.isBlank c = false

/-- The host that a part of a list names, if it names one. -/
def hostOf? (part : List Char) : Option String :=
  if (Text.trimChars part).isEmpty then none else some (String.ofList (Text.trimChars part))

theorem parseHosts_eq (list : String) :
    parseHosts list = (list.toList.splitOn ',').filterMap hostOf? := by
  rw [parseHosts, Text.splitChars_eq_splitOn, List.filterMap_map]
  rfl

/-! ## One part -/

theorem hostOf?_eq_some_iff {part : List Char} {host : String} :
    hostOf? part = some host ↔ host ≠ "" ∧ Text.trimChars part = host.toList := by
  rw [hostOf?]
  cases trimmed : Text.trimChars part with
  | nil =>
      apply iff_of_false
      · rintro ⟨⟩
      · rintro ⟨solid, empty⟩
        exact solid (String.toList_eq_nil_iff.mp empty.symm)
  | cons c rest =>
      rw [List.isEmpty_cons, if_neg Bool.false_ne_true, Option.some.injEq, ← String.toList_inj,
        String.toList_ofList, iff_and_self]
      intro same empty
      rw [empty] at same
      cases same

/-- What is left of a part is as free of commas as the part. -/
theorem isHost_of_hostOf? {part : List Char} {host : String} (noComma : ',' ∉ part)
    (named : hostOf? part = some host) : IsHost host := by
  rcases hostOf?_eq_some_iff.1 named with ⟨solid, trimmed⟩
  have trims := Text.trims_trimChars part
  rw [trimmed] at trims
  refine { solid, noComma := ?_, starts := trims.starts, ends := trims.ends }
  intro comma
  rcases trims.whole with ⟨front, back, whole, _, _⟩
  apply noComma
  rw [whole]
  exact List.mem_append_right front (List.mem_append_left back comma)

theorem IsHost.hostOf?_toList {host : String} (isHost : IsHost host) :
    hostOf? host.toList = some host :=
  hostOf?_eq_some_iff.2 ⟨isHost.solid, Text.trimChars_of_ends isHost.starts isHost.ends⟩

/-! ## All parts -/

theorem parseHosts_append (first second : String) :
    parseHosts (first ++ "," ++ second) = parseHosts first ++ parseHosts second := by
  have comma : (first ++ "," ++ second).toList = first.toList ++ ',' :: second.toList := by
    simp
  rw [parseHosts_eq, comma, List.splitOn_append_cons_self, List.filterMap_append, ← parseHosts_eq,
    ← parseHosts_eq]

theorem isHost_of_mem_parseHosts {list host : String} (member : host ∈ parseHosts list) :
    IsHost host := by
  rw [parseHosts_eq, ← Text.splitChars_eq_splitOn] at member
  rcases List.mem_filterMap.mp member with ⟨part, listed, named⟩
  exact isHost_of_hostOf? (Text.not_mem_of_mem_splitChars listed) named

theorem parseHosts_intercalate {hosts : List String} (each : ∀ host ∈ hosts, IsHost host) :
    parseHosts (",".intercalate hosts) = hosts := by
  by_cases empty : hosts = []
  · -- Joining nothing gives a text of one part, which names no host.
    rw [empty]
    rfl
  · have parts : (",".intercalate hosts).toList.splitOn ',' = hosts.map String.toList := by
      rw [String.toList_intercalate]
      apply List.splitOn_intercalate
      · intro part listed
        rcases List.mem_map.mp listed with ⟨host, member, rfl⟩
        exact (each host member).noComma
      · exact List.map_eq_nil_iff.not.mpr empty
    rw [parseHosts_eq, parts, List.filterMap_map]
    calc
      hosts.filterMap (hostOf? ∘ String.toList) = hosts.filterMap Option.some :=
        List.filterMap_congr fun host member => (each host member).hostOf?_toList
      _ = hosts := List.filterMap_some

theorem parseHosts_intercalate_eq_iff {hosts : List String} :
    parseHosts (",".intercalate hosts) = hosts ↔ ∀ host ∈ hosts, IsHost host := by
  constructor
  · intro same host member
    rw [← same] at member
    exact isHost_of_mem_parseHosts member
  · exact parseHosts_intercalate

theorem parseHosts_hostList {credentials : Credentials} {list : String}
    (read : credentials.hosts = parseHosts list) :
    parseHosts credentials.hostList = credentials.hosts := by
  apply parseHosts_intercalate
  intro host member
  rw [read] at member
  exact isHost_of_mem_parseHosts member

/-! ## What is shown -/

theorem shown_of_connecting {State : Type} {reason shown : String} {credentials : Credentials}
    {state : State} {port : Nat}
    (told : .connecting shown port ∈
      ((Connector.unreachable reason State).connect credentials state).events) :
    shown = credentials.hostList := by
  simp only [Connector.unreachable] at told
  split at told
  · cases told
  · rcases List.mem_cons.mp told with authentication | connecting
    · split at authentication <;> cases authentication
    · cases List.mem_singleton.mp connecting
      rfl

/-- A refused connection is reported with the hosts that the section lists. -/
theorem parseHosts_of_refusal {Cluster : Type} {runner : Runner Cluster} {steps : List Step}
    {world : World Cluster} {shown reason : String}
    (refused : (runner.run steps world).result =
      .error (.failure (.provision (.connection shown reason)))) :
    parseHosts shown = parseHosts runner.config.database.hosts := by
  have follows := Runner.followsSection_run runner steps world
  rcases follows.refusals shown reason refused with ⟨credentials, _, asked, rfl, _⟩
  have described := (DatabaseSettings.credentials_eq_ok_iff.1 (follows.connects _ asked).1).2
  have read : credentials.hosts = parseHosts runner.config.database.hosts :=
    congrArg hosts described
  rw [parseHosts_hostList read, read]

/-- Lists joined by a comma are read one after the other, what is read are hosts, and a list of
texts is what its joined text is read as if and only if the texts are hosts. So the hosts that are
read of a list are those that are read of any text that shows them: joined by commas, in the event
of a connection, and in the error of a run that is refused one. -/
theorem parseHosts_reads_joined (first second : String) (hosts : List String) :
    parseHosts (first ++ "," ++ second) = parseHosts first ++ parseHosts second ∧
      (∀ host ∈ parseHosts first, IsHost host) ∧
      (parseHosts (",".intercalate hosts) = hosts ↔ ∀ host ∈ hosts, IsHost host) ∧
      (∀ credentials : Credentials, credentials.hosts = parseHosts first →
        parseHosts credentials.hostList = credentials.hosts ∧
          ∀ (State : Type) (reason shown : String) (state : State) (port : Nat),
            .connecting shown port ∈
              ((Connector.unreachable reason State).connect credentials state).events →
            parseHosts shown = credentials.hosts) ∧
      ∀ (Cluster : Type) (runner : Runner Cluster) (steps : List Step) (world : World Cluster)
        (shown reason : String),
        (runner.run steps world).result =
          .error (.failure (.provision (.connection shown reason))) →
        parseHosts shown = parseHosts runner.config.database.hosts := by
  refine ⟨parseHosts_append first second, fun _ => isHost_of_mem_parseHosts,
    parseHosts_intercalate_eq_iff, fun credentials read => ⟨parseHosts_hostList read, ?_⟩,
    fun _ _ _ _ _ _ => parseHosts_of_refusal⟩
  intro State reason shown state port told
  rw [shown_of_connecting told]
  exact parseHosts_hostList read

/-- A run for a list with blanks, an empty part and white space within a host, for whose hosts nobody
answers. -/
def unanswered : Runner (List String) where
  config := { database := { hosts := " a b ,,\u3000::1", port := 9042 } }
  connector := .unreachable "down" (List String)

theorem parseHosts_reads_joined_unanswered :
    let list := " a b ,,\u3000::1"
    "a b" ∈ parseHosts list ∧ IsHost "a b" ∧
      (ofHosts ["a b", "::1"] 9042).hosts = parseHosts list ∧
      .connecting "a b,::1" 9042 ∈ ((Connector.unreachable "down" Unit).connect
        (ofHosts ["a b", "::1"] 9042) ()).events ∧
      (unanswered.run [.schema] Runner.unused).result =
        .error (.failure (.provision (.connection "a b,::1" "down"))) ∧
      parseHosts "a b,::1" = ["a b", "::1"] ∧
      parseHosts "a b,::1" = parseHosts list := by
  intro list
  have named : "a b" ∈ parseHosts list := by decide +kernel
  have read : (ofHosts ["a b", "::1"] 9042).hosts = parseHosts list := by decide +kernel
  have told : .connecting "a b,::1" 9042 ∈ ((Connector.unreachable "down" Unit).connect
      (ofHosts ["a b", "::1"] 9042) ()).events := by decide +kernel
  have refused : (unanswered.run [.schema] Runner.unused).result =
      .error (.failure (.provision (.connection "a b,::1" "down"))) := by decide +kernel
  rcases parseHosts_reads_joined list "c" ["a b", "::1"] with ⟨_, each, _, shown, refusals⟩
  exact ⟨named, each "a b" named, read, told, refused,
    (shown _ read).2 Unit "down" "a b,::1" () 9042 told,
    refusals (List String) unanswered [.schema] Runner.unused "a b,::1" "down" refused⟩

end Credentials

end MailProvision
