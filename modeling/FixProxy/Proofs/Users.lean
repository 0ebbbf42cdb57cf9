import FixProxy.Config

/-! What the configuration file says. It is accepted if and only if it is understood to the last
key, and the credentials that the process starts with are then those of its sections. Where two
sections name the same user it is left open which of them counts, unless they agree. -/

namespace FixProxy
open Toml

namespace Toml
variable {library : Toml.Library} {key other : String} {fields entries : List (String × Node)}

def textOf (name : String) (fields : List (String × Node)) : String :=
  ((fields.lookup name).bind Node.getString).getD ""

def numberOf (library : Toml.Library) (name : String) (fields : List (String × Node)) : Nat :=
  ((fields.lookup name).bind (Node.getUInt32 library)).getD 0

/-- What a symbol list must look like. -/
def Node.Symbols : Node → Prop
  | .array items => ∀ item ∈ items, item.getString.isSome
  | .table _ => False
  | value => value.getString.isSome

/-- What an entry of a section must look like. -/
def UserField (library : Toml.Library) (entry : String × Node) : Prop :=
  (entry.1 ∈ ["component", "username", "password"] ∧ entry.2.getString.isSome) ∨
    (entry.1 = "strategy_id" ∧ (entry.2.getUInt32 library).isSome) ∨ entry.1 = "accounts"

/-- What an entry of the users must look like: a section. -/
def UserSection (library : Toml.Library) (entry : String × Node) : Prop :=
  ∃ fields, entry.2 = .table fields ∧ ∀ field ∈ fields, UserField library field

/-- What the file must look like. -/
structure WellFormed (library : Toml.Library) (entries : List (String × Node)) : Prop where
  symbols : ∃ value, entries.lookup "symbols" = some value ∧ value.Symbols
  users : ∃ sections, entries.lookup "users" = some (.table sections) ∧ ∀ entry ∈ sections, UserSection library entry
  nothingElse : ∀ entry ∈ entries, entry.1 = "symbols" ∨ entry.1 = "users"

def Node.section (key : String) : Node → Option (List (String × Node))
  | .table entries =>
    match entries.lookup "users" with
    | some (.table sections) =>
      match sections.lookup key with
      | some (.table fields) => some fields
      | _ => none
    | _ => none
  | _ => none

/-- No section has a key twice, as is so of every parsed file. -/
def Node.Keyed (root : Node) : Prop := ∀ key fields, root.section key = some fields → (fields.map Prod.fst).Nodup

private theorem lookup_filter_ne (different : key ≠ other) (entries : List (String × Node)) :
    (entries.filter fun entry => entry.1 != other).lookup key = entries.lookup key := by
  induction entries with
  | nil => rfl
  | cons entry rest ih =>
    obtain ⟨first, value⟩ := entry
    by_cases dropped : first = other
    · have absent : (key == first) = false := by simpa [dropped] using different
      rw [List.filter_cons_of_neg (by simpa using dropped), ih, List.lookup_cons, absent]
    · rw [List.filter_cons_of_pos (by simpa using dropped), List.lookup_cons, List.lookup_cons, ih]

end Toml

namespace Config
variable {library : Toml.Library} {root node rest : Node} {entries fields : List (String × Node)} {config : Config}

/-- What a user says of its username. -/
def User.stated (user : User) : String × String × Nat := (user.username, user.password, user.strategyId)

@[simp] theorem deref_eq_ok {α : Type} {value : Option α} {result : α} : deref value = .ok result ↔ value = some result := by
  cases value <;> simp [deref]

@[simp] theorem bind_eq_ok {α β : Type} {first : Except Failure α} {next : α → Except Failure β} {result : β} :
    (first >>= next) = .ok result ↔ ∃ value, first = .ok value ∧ next value = .ok result := by
  cases first <;> simp [bind, Except.bind]

@[simp] theorem pure_eq_ok {α : Type} {value result : α} :
    (pure value : Except Failure α) = .ok result ↔ value = result := by
  simp [pure, Except.pure]

@[simp] theorem map_eq_ok {α β : Type} {change : α → β} {first : Except Failure α} {result : β} :
    change <$> first = .ok result ↔ ∃ value, first = .ok value ∧ change value = result := by
  cases first <;> simp [Functor.map, Except.map]

/-- A loop ends well if and only if each turn does, where what a turn accepts does not depend on
the turns before. -/
private theorem foldlM_accepts_iff {σ α : Type} {turn : σ → α → Except Failure σ} {good : α → Prop}
    (each : ∀ state item, (∃ after, turn state item = .ok after) ↔ good item) (items : List α) (state : σ) :
    (∃ last, items.foldlM turn state = .ok last) ↔ ∀ item ∈ items, good item := by
  induction items generalizing state with
  | nil => simp
  | cons item items ih =>
    simp only [List.foldlM_cons, bind_eq_ok, List.forall_mem_cons]
    constructor
    · intro accepted
      obtain ⟨last, after, here, later⟩ := accepted
      exact ⟨(each state item).mp ⟨after, here⟩, (ih after).mp ⟨last, later⟩⟩
    · intro wellFormed
      obtain ⟨after, here⟩ := (each state item).mpr wellFormed.1
      obtain ⟨last, later⟩ := (ih after).mpr wellFormed.2
      exact ⟨last, after, here, later⟩

/-! The fields of a user. -/

private theorem parseField_cases {start user : User} {key : String} {value : Node}
    (parsed : parseField library start (key, value) = .ok user) :
    (key = "component" ∧ ∃ text, value.getString = some text ∧ user = { start with component := text }) ∨
    (key = "username" ∧ ∃ text, value.getString = some text ∧ user = { start with username := text }) ∨
    (key = "password" ∧ ∃ text, value.getString = some text ∧ user = { start with password := text }) ∨
    (key = "accounts" ∧ user = start) ∨
    (key = "strategy_id" ∧ ∃ number, value.getUInt32 library = some number ∧ user = { start with strategyId := number }) := by
  unfold parseField at parsed
  simp only at parsed
  split at parsed
  · next name =>
    obtain ⟨text, read, same⟩ := bind_eq_ok.mp parsed
    exact Or.inl ⟨name, text, deref_eq_ok.mp read, (pure_eq_ok.mp same).symm⟩
  · split at parsed
    · next name =>
      obtain ⟨text, read, same⟩ := bind_eq_ok.mp parsed
      exact Or.inr (Or.inl ⟨name, text, deref_eq_ok.mp read, (pure_eq_ok.mp same).symm⟩)
    · split at parsed
      · next name =>
        obtain ⟨text, read, same⟩ := bind_eq_ok.mp parsed
        exact Or.inr (Or.inr (Or.inl ⟨name, text, deref_eq_ok.mp read, (pure_eq_ok.mp same).symm⟩))
      · split at parsed
        · next name =>
          cases parsed
          exact Or.inr (Or.inr (Or.inr (Or.inl ⟨name, rfl⟩)))
        · split at parsed
          · next name =>
            obtain ⟨number, read, same⟩ := bind_eq_ok.mp parsed
            exact Or.inr (Or.inr (Or.inr (Or.inr ⟨name, number, deref_eq_ok.mp read, (pure_eq_ok.mp same).symm⟩)))
          · cases parsed

private theorem parseField_accepts_iff (start : User) (entry : String × Node) :
    (∃ user, parseField library start entry = .ok user) ↔ UserField library entry := by
  obtain ⟨key, value⟩ := entry
  constructor
  · intro accepted
    obtain ⟨user, parsed⟩ := accepted
    rcases parseField_cases parsed with ⟨rfl, text, read, -⟩ | ⟨rfl, text, read, -⟩ | ⟨rfl, text, read, -⟩ | ⟨rfl, -⟩ |
      ⟨rfl, number, read, -⟩ <;> simp [UserField, *]
  · intro wellFormed
    rcases wellFormed with ⟨name, text⟩ | ⟨rfl, number⟩ | rfl
    · obtain ⟨text, read⟩ := Option.isSome_iff_exists.mp text
      simp only at read
      simp only [List.mem_cons, List.not_mem_nil, or_false] at name
      rcases name with rfl | rfl | rfl <;> simp [parseField, read, deref, Functor.map, Except.map]
    · obtain ⟨number, read⟩ := Option.isSome_iff_exists.mp number
      simp only at read
      simp [parseField, read, deref, Functor.map, Except.map]
    · simp [parseField]

/-- An entry sets the field of its name, and every other field is as it was. -/
private structure Reads (library : Toml.Library) (start : User) (key : String) (value : Node) (user : User) : Prop where
  username : if key = "username" then value.getString = some user.username else user.username = start.username
  password : if key = "password" then value.getString = some user.password else user.password = start.password
  strategyId : if key = "strategy_id" then value.getUInt32 library = some user.strategyId
    else user.strategyId = start.strategyId

private theorem parseField_reads {start user : User} {key : String} {value : Node}
    (parsed : parseField library start (key, value) = .ok user) : Reads library start key value user := by
  rcases parseField_cases parsed with ⟨rfl, text, read, rfl⟩ | ⟨rfl, text, read, rfl⟩ | ⟨rfl, text, read, rfl⟩ | ⟨rfl, rfl⟩ |
    ⟨rfl, number, read, rfl⟩ <;> constructor <;> simp [read]

private theorem field_of_fold {β : Type} (get : User → β) (name : String) (read : Node → Option β)
    (reads : ∀ {start user key value}, parseField library start (key, value) = .ok user →
      if key = name then read value = some (get user) else get user = get start)
    {start user : User} (parsed : fields.foldlM (parseField library) start = .ok user)
    (keyed : (fields.map Prod.fst).Nodup) : get user = ((fields.lookup name).bind read).getD (get start) := by
  induction fields generalizing start with
  | nil =>
    cases parsed
    rfl
  | cons entry fields ih =>
    obtain ⟨key, value⟩ := entry
    obtain ⟨next, here, later⟩ := bind_eq_ok.mp parsed
    obtain ⟨fresh, keyed⟩ := List.nodup_cons.mp keyed
    have rest := ih later keyed
    have first := reads here
    by_cases same : key = name
    · subst same
      rw [if_pos rfl] at first
      have absent : fields.lookup key = none := by
        rw [List.lookup_eq_none_iff]
        intro entry member
        have different : key ≠ entry.1 := by
          intro found
          apply fresh
          exact List.mem_map.mpr ⟨entry, member, found.symm⟩
        simpa using different
      rw [rest, absent, List.lookup_cons_self, Option.bind_some, first]
      rfl
    · rw [if_neg same] at first
      have different : (name == key) = false := beq_false_of_ne (Ne.symm same)
      rw [rest, first, List.lookup_cons, different]

private theorem username_eq {user : User} (parsed : parseUser library fields = .ok user)
    (keyed : (fields.map Prod.fst).Nodup) : user.username = textOf "username" fields :=
  field_of_fold (·.username) "username" Node.getString (fun parsed => (parseField_reads parsed).username) parsed keyed

private theorem password_eq {user : User} (parsed : parseUser library fields = .ok user)
    (keyed : (fields.map Prod.fst).Nodup) : user.password = textOf "password" fields :=
  field_of_fold (·.password) "password" Node.getString (fun parsed => (parseField_reads parsed).password) parsed keyed

private theorem strategyId_eq {user : User} (parsed : parseUser library fields = .ok user)
    (keyed : (fields.map Prod.fst).Nodup) : user.strategyId = numberOf library "strategy_id" fields :=
  field_of_fold (·.strategyId) "strategy_id" (Node.getUInt32 library) (fun parsed => (parseField_reads parsed).strategyId)
    parsed keyed

/-! The sections. -/

private theorem insertUser_accepts_iff (users : Map String User) (entry : String × Node) :
    (∃ after, insertUser library users entry = .ok after) ↔ UserSection library entry := by
  obtain ⟨key, value⟩ := entry
  cases value with
  | table fields =>
    simp only [insertUser, bind_eq_ok, pure_eq_ok, UserSection, Node.table.injEq, exists_eq_left']
    refine Iff.trans ?_ (foldlM_accepts_iff parseField_accepts_iff fields {})
    constructor
    · intro accepted
      obtain ⟨-, user, parsed, -⟩ := accepted
      exact ⟨user, parsed⟩
    · intro accepted
      obtain ⟨user, parsed⟩ := accepted
      exact ⟨_, user, parsed, rfl⟩
  | _ => simp [insertUser, UserSection]

private theorem find_of_fold {users last : Map String User} {key : String} {user : User}
    (inserted : entries.foldlM (insertUser library) users = .ok last) :
    last.find key = some user ↔ users.find key = some user ∨
      (users.find key = none ∧ ∃ fields, entries.lookup key = some (.table fields) ∧ parseUser library fields = .ok user) := by
  induction entries generalizing users with
  | nil =>
    cases inserted
    simp
  | cons entry entries ih =>
    obtain ⟨first, value⟩ := entry
    obtain ⟨after, here, later⟩ := bind_eq_ok.mp inserted
    cases value with
    | table fields =>
      simp only [insertUser, bind_eq_ok, pure_eq_ok] at here
      obtain ⟨parsed, reads, rfl⟩ := here
      rw [ih later, Map.find_tryEmplace]
      by_cases same : key = first
      · subst same
        cases users.find key <;> simp [reads]
      · have other : (key == first) = false := beq_false_of_ne same
        simp [same, List.lookup_cons, other]
    | _ => cases here

private theorem usersOf_accepts_iff : (∃ users, usersOf library node = .ok users) ↔
    ∃ sections, node = .table sections ∧ ∀ entry ∈ sections, UserSection library entry := by
  cases node with
  | table sections =>
    simp only [usersOf, Node.table.injEq, exists_eq_left']
    exact foldlM_accepts_iff insertUser_accepts_iff sections ∅
  | _ => simp [usersOf]

private theorem symbolsOf_accepts_iff : (∃ symbols, symbolsOf node = .ok symbols) ↔ node.Symbols := by
  have insert_iff (result : List String) (item : Node) :
      (∃ after, (do return result.insert (← deref item.getString)) = (.ok after : Except Failure (List String))) ↔
        item.getString.isSome := by
    rw [Option.isSome_iff_exists]
    simp only [bind_eq_ok, deref_eq_ok, pure_eq_ok]
    constructor
    · intro accepted
      obtain ⟨-, text, read, -⟩ := accepted
      exact ⟨text, read⟩
    · intro accepted
      obtain ⟨text, read⟩ := accepted
      exact ⟨_, text, read, rfl⟩
  have all_iff := foldlM_accepts_iff insert_iff
  cases node with
  | array items => exact all_iff items []
  | table fields => simp [symbolsOf, Node.Symbols]
  | _ => exact (all_iff [_] []).trans List.forall_mem_singleton

private theorem checkEmpty_accepts_iff : (∃ checked, checkEmpty (.table entries) = .ok checked) ↔ entries = [] := by
  unfold checkEmpty
  cases entries <;> simp

private theorem parseSymbols_eq_ok {symbols : List String} : parseSymbols (.table entries) = .ok (symbols, rest) ↔
    ∃ found, entries.lookup "symbols" = some found ∧ symbolsOf found = .ok symbols ∧
      rest = .table (entries.filter fun entry => entry.1 != "symbols") := by
  unfold parseSymbols Node.findAndRemove
  cases found : entries.lookup "symbols" <;> simp [found, @eq_comm _ _ rest]

private theorem parseUsers_eq_ok {users : Map String User} : parseUsers library (.table entries) = .ok (users, rest) ↔
    ∃ found, entries.lookup "users" = some found ∧ usersOf library found = .ok users ∧
      rest = .table (entries.filter fun entry => entry.1 != "users") := by
  unfold parseUsers Node.findAndRemove
  cases found : entries.lookup "users" <;> simp [found, @eq_comm _ _ rest]

private theorem create_eq_ok : create library (.table entries) = .ok config ↔
    ∃ symbols users, entries.lookup "symbols" = some symbols ∧ symbolsOf symbols = .ok config.symbols ∧
      entries.lookup "users" = some users ∧ usersOf library users = .ok config.users ∧
      ∀ entry ∈ entries, entry.1 = "symbols" ∨ entry.1 = "users" := by
  have second := lookup_filter_ne (show "users" ≠ "symbols" by decide) entries
  have remaining : (∃ checked, checkEmpty (.table ((entries.filter fun entry => entry.1 != "symbols").filter
      fun entry => entry.1 != "users")) = .ok checked) ↔ ∀ entry ∈ entries, entry.1 = "symbols" ∨ entry.1 = "users" := by
    rw [checkEmpty_accepts_iff, List.filter_filter, List.filter_eq_nil_iff]
    refine forall₂_congr fun entry member => ?_
    simp only [Bool.and_eq_true, bne_iff_ne]
    tauto
  unfold create
  simp only [bind_eq_ok, pure_eq_ok, Prod.exists, parseSymbols_eq_ok]
  constructor
  · intro accepted
    obtain ⟨symbols, _, ⟨first, found, read, rfl⟩, users, _, parsed, nothing, checked, rfl⟩ := accepted
    obtain ⟨later, sections, reads, rfl⟩ := parseUsers_eq_ok.mp parsed
    exact ⟨first, later, found, read, second ▸ sections, reads, remaining.mp ⟨nothing, checked⟩⟩
  · intro wellFormed
    obtain ⟨first, later, found, read, sections, reads, nothingElse⟩ := wellFormed
    obtain ⟨nothing, checked⟩ := remaining.mpr nothingElse
    exact ⟨config.symbols, _, ⟨first, found, read, rfl⟩, config.users, _,
      parseUsers_eq_ok.mpr ⟨later, second.trans sections, reads, rfl⟩, nothing, checked, rfl⟩

/-- A file is accepted if and only if all of it is understood: nothing in it is passed over, but
for the accounts, and nothing that is needed is missing. -/
private theorem accepted_iff : (∃ config, create library root = .ok config) ↔
    ∃ entries, root = .table entries ∧ WellFormed library entries := by
  cases root with
  | table entries =>
    simp only [Node.table.injEq, exists_eq_left', create_eq_ok]
    constructor
    · intro accepted
      obtain ⟨config, symbols, users, found, read, sections, reads, nothingElse⟩ := accepted
      obtain ⟨fields, rfl, wellFormed⟩ := usersOf_accepts_iff.mp ⟨_, reads⟩
      exact ⟨⟨symbols, found, symbolsOf_accepts_iff.mp ⟨_, read⟩⟩, ⟨fields, sections, wellFormed⟩, nothingElse⟩
    · intro wellFormed
      obtain ⟨⟨symbols, found, listed⟩, ⟨fields, sections, wellFormed⟩, nothingElse⟩ := wellFormed
      obtain ⟨read, symbolsRead⟩ := symbolsOf_accepts_iff.mpr listed
      obtain ⟨users, usersRead⟩ := usersOf_accepts_iff.mpr ⟨fields, rfl, wellFormed⟩
      exact ⟨⟨read, users⟩, symbols, .table fields, found, symbolsRead, sections, usersRead, nothingElse⟩
  | _ => simp [create, parseSymbols, Node.findAndRemove, bind, Except.bind]

private theorem find_users {key : String} {user : User} (accepted : create library root = .ok config) :
    config.users.find key = some user ↔ ∃ fields, root.section key = some fields ∧ parseUser library fields = .ok user := by
  obtain ⟨entries, rfl, -⟩ := accepted_iff.mp ⟨config, accepted⟩
  obtain ⟨symbols, users, -, -, sections, reads, -⟩ := create_eq_ok.mp accepted
  obtain ⟨fields, rfl, -⟩ := usersOf_accepts_iff.mp ⟨_, reads⟩
  have known : config.users.find key = some user ↔ _ := find_of_fold reads
  rw [known]
  simp only [Map.find_empty, reduceCtorEq, false_or, true_and, Node.section, sections]
  cases fields.lookup key with
  | none => simp
  | some value => cases value <;> simp

private theorem parses_of_section {key : String} (accepted : create library root = .ok config)
    (found : root.section key = some fields) : ∃ user, parseUser library fields = .ok user := by
  obtain ⟨entries, rfl, wellFormed⟩ := accepted_iff.mp ⟨config, accepted⟩
  obtain ⟨sections, listed, each⟩ := wellFormed.users
  apply (foldlM_accepts_iff parseField_accepts_iff fields {}).mpr
  simp only [Node.section, listed] at found
  split at found
  · next here held =>
    cases found
    obtain ⟨earlier, later, rfl, -⟩ := List.lookup_eq_some_iff.mp held
    obtain ⟨same, table, wellFormed⟩ := each (key, .table fields) (by simp)
    cases table
    exact wellFormed
  · cases found

private theorem stated_iff {username secret : String} {strategyId : Nat} (accepted : create library root = .ok config)
    (keyed : root.Keyed) :
    (∃ user ∈ config.users.toList.map Prod.snd, user.stated = (username, secret, strategyId)) ↔
      ∃ key fields, root.section key = some fields ∧ textOf "username" fields = username ∧
        textOf "password" fields = secret ∧ numberOf library "strategy_id" fields = strategyId := by
  constructor
  · intro stated
    obtain ⟨user, member, same⟩ := stated
    cases same
    obtain ⟨⟨key, user⟩, listed, rfl⟩ := List.mem_map.mp member
    obtain ⟨fields, found, parsed⟩ := (find_users accepted).mp (Map.mem_toList.mp listed)
    have unique := keyed key fields found
    exact ⟨key, fields, found, (username_eq parsed unique).symm, (password_eq parsed unique).symm,
      (strategyId_eq parsed unique).symm⟩
  · intro stated
    obtain ⟨key, fields, found, rfl, rfl, rfl⟩ := stated
    have unique := keyed key fields found
    obtain ⟨user, parsed⟩ := parses_of_section accepted found
    have listed : (key, user) ∈ config.users.toList := Map.mem_toList.mpr ((find_users accepted).mpr ⟨fields, found, parsed⟩)
    refine ⟨user, List.mem_map.mpr ⟨_, listed, rfl⟩, ?_⟩
    rw [User.stated, username_eq parsed unique, password_eq parsed unique, strategyId_eq parsed unique]

end Config

namespace Deployment

def profile (username password account : String) (strategyId : Int) : Node :=
  .table [("accounts", .string account), ("component", .string "test"), ("password", .string password),
    ("strategy_id", .integer strategyId), ("username", .string username)]

/-- That configuration, where the third user may have another name. -/
def file (third : String) : Node :=
  .table [("symbols", .array [.string "^BTC(_USD[A-Z]?)?-PERPETUAL$", .string "^ETH(_USD[A-Z]?)?-PERPETUAL$"]),
    ("users", .table [("c1", profile "trader" "secret" "A1" 1), ("c2", profile "c2" "p2" "A2" 2),
      ("c3", profile third "p3" "A1" 3)])]

def toml : Toml.Library where
  convert _ := none

private theorem keyed_file (third : String) : (file third).Keyed := by
  intro key fields found
  change (match List.lookup key [("c1", profile "trader" "secret" "A1" 1), ("c2", profile "c2" "p2" "A2" 2),
    ("c3", profile third "p3" "A1" 3)] with
    | some (.table fields) => some fields
    | _ => none) = some fields at found
  split at found
  · next here held =>
    cases found
    obtain ⟨earlier, later, whole, -⟩ := List.lookup_eq_some_iff.mp held
    have member : (key, Node.table fields) ∈ earlier ++ (key, .table fields) :: later := by simp
    rw [← whole] at member
    simp only [profile, List.mem_cons, Prod.mk.injEq, Node.table.injEq, List.not_mem_nil, or_false] at member
    rcases member with ⟨-, rfl⟩ | ⟨-, rfl⟩ | ⟨-, rfl⟩ <;> simp
  · cases found

private theorem accepts_file (third : String) : ∃ config, Config.create toml (file third) = .ok config :=
  ⟨_, rfl⟩

end Deployment

namespace Config
variable {library : Toml.Library} {root : Node} {config : Config}

/-- A file is accepted if and only if all of it is understood: nothing in it is passed over but
the accounts, and nothing that is needed is missing. The credentials that the process may then
start with, by the order in which the users are visited, are exactly those that its sections state. -/
theorem credentials_of_file (keyed : root.Keyed) :
    ((∃ config, create library root = .ok config) ↔ ∃ entries, root = .table entries ∧ WellFormed library entries) ∧
    ∀ config, create library root = .ok config → ∀ username secret strategyId,
      (∃ order, order.Perm (config.users.toList.map Prod.snd) ∧
        (Shared.createUsernameToPasswordAndStrategyId order).find username = some (secret, strategyId)) ↔
      ∃ key fields, root.section key = some fields ∧ textOf "username" fields = username ∧
        textOf "password" fields = secret ∧ numberOf library "strategy_id" fields = strategyId := by
  refine ⟨accepted_iff, ?_⟩
  intro config accepted username secret strategyId
  exact (@Map.gather_iff _ _ _ _ User.stated ..).trans (stated_iff accepted keyed)

/-- The process can start with the credentials of the first section. -/
theorem credentials_of_file_first : ∃ config, create Deployment.toml (Deployment.file "c3") = .ok config ∧
    ∃ order, order.Perm (config.users.toList.map Prod.snd) ∧
      (Shared.createUsernameToPasswordAndStrategyId order).find "trader" = some ("secret", 1) := by
  obtain ⟨config, accepted⟩ := Deployment.accepts_file "c3"
  have possible := (credentials_of_file (Deployment.keyed_file "c3")).2 config accepted "trader" "secret" 1
  exact ⟨config, accepted, possible.mpr ⟨"c1", _, rfl, by decide, by decide, by decide⟩⟩

/-- Which credentials a username has does not depend on that order if and only if the sections
that name it agree. -/
theorem credentials_settled_iff {username : String} (accepted : create library root = .ok config) (keyed : root.Keyed) :
    (∀ order order', order.Perm (config.users.toList.map Prod.snd) → order'.Perm (config.users.toList.map Prod.snd) →
        (Shared.createUsernameToPasswordAndStrategyId order).find username =
          (Shared.createUsernameToPasswordAndStrategyId order').find username) ↔
      ∀ key fields, root.section key = some fields → textOf "username" fields = username →
        ∀ key' fields', root.section key' = some fields' → textOf "username" fields' = username →
          textOf "password" fields = textOf "password" fields' ∧
            numberOf library "strategy_id" fields = numberOf library "strategy_id" fields' := by
  refine (@Map.gather_settled_iff _ _ _ _ User.stated ..).trans ?_
  constructor
  · intro agree key fields found name key' fields' found' name'
    obtain ⟨user, member, same⟩ := (stated_iff accepted keyed).mpr ⟨key, fields, found, name, rfl, rfl⟩
    obtain ⟨user', member', same'⟩ := (stated_iff accepted keyed).mpr ⟨key', fields', found', name', rfl, rfl⟩
    have equal := agree user member user' member' (congrArg Prod.fst same) (congrArg Prod.fst same')
    rw [same, same'] at equal
    exact Prod.mk.inj equal
  · intro agree user member user' member' name name'
    obtain ⟨key, fields, found, same, password, number⟩ := (stated_iff accepted keyed).mp ⟨user, member, rfl⟩
    obtain ⟨key', fields', found', same', password', number'⟩ := (stated_iff accepted keyed).mp ⟨user', member', rfl⟩
    obtain ⟨secrets, ids⟩ := agree key fields found (same.trans name) key' fields' found' (same'.trans name')
    exact Prod.ext (password.symm.trans (secrets.trans password')) (number.symm.trans (ids.trans number'))

/-- Two sections name the same user, and do not agree. -/
theorem credentials_settled_iff_conflict : ∃ config, create Deployment.toml (Deployment.file "trader") = .ok config ∧
    ¬ ∀ order order', order.Perm (config.users.toList.map Prod.snd) → order'.Perm (config.users.toList.map Prod.snd) →
      (Shared.createUsernameToPasswordAndStrategyId order).find "trader" =
        (Shared.createUsernameToPasswordAndStrategyId order').find "trader" := by
  obtain ⟨config, accepted⟩ := Deployment.accepts_file "trader"
  refine ⟨config, accepted, fun settled => ?_⟩
  have agree := (credentials_settled_iff accepted (Deployment.keyed_file "trader")).mp settled
  have same := (agree "c1" _ rfl rfl "c3" _ rfl rfl).1
  exact absurd same (by decide)

end Config
end FixProxy
