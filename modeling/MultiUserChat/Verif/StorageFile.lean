import MultiUserChat.Library.Tokens
import MultiUserChat.Verif.Accounts
/-!
# What a loader makes of a storage file

The loader cuts the file into what single `fgets` calls return and each of these into tokens. A
loaded store is the records read from the pieces, each name by its first record. A file that ends in
the middle of a piece passes the torn piece on to whatever is appended; everything before it is read
as if nothing followed.
-/

namespace MultiUserChat

/-! ## Lines -/

/-- The longest text one `fgets` of the loader returns. -/
abbrev lineMax : Nat := 511

/-- A text without a newline, up to its newline, is one line if it is short enough. -/
theorem fgets_line {limit : Nat} {line : List UInt8} (single : 10 ∉ line)
    (short : line.length < limit) (rest : List UInt8) :
    fgets limit (line ++ 10 :: rest) = (line ++ [10], rest) := by
  induction line generalizing limit with
  | nil =>
    obtain ⟨limit, rfl⟩ := Nat.exists_eq_succ_of_ne_zero (Nat.ne_zero_of_lt short)
    simp [fgets]
  | cons byte line ih =>
    obtain ⟨limit, rfl⟩ := Nat.exists_eq_succ_of_ne_zero (Nat.ne_zero_of_lt short)
    simp only [List.mem_cons, not_or] at single
    simp only [List.length_cons, Nat.succ_eq_add_one, Nat.add_lt_add_iff_right] at short
    simp [fgets, Ne.symm single.1, ih single.2 short]

/-- A text without a newline among the bytes that fit is cut where the buffer is full. -/
theorem fgets_full {limit : Nat} {text : List UInt8} (single : 10 ∉ text.take limit)
    (long : limit ≤ text.length) :
    fgets limit text = (text.take limit, text.drop limit) := by
  induction limit generalizing text with
  | zero => simp [fgets]
  | succ limit ih =>
    cases text with
    | nil => simp at long
    | cons byte text =>
      simp only [List.take_succ_cons, List.mem_cons, not_or] at single
      simp only [List.length_cons, Nat.add_le_add_iff_right] at long
      simp [fgets, Ne.symm single.1, ih single.2 long]

/-- What `fgets` returns either does not depend on what follows, or is a torn rest of the file. -/
theorem fgets_append (limit : Nat) (file : List UInt8) :
    ¬ ((fgets limit file).1.length < limit ∧ 10 ∉ (fgets limit file).1) ∧
        (∀ more,
          fgets limit (file ++ more) = ((fgets limit file).1, (fgets limit file).2 ++ more)) ∨
      fgets limit file = (file, []) ∧ file.length < limit ∧ 10 ∉ file := by
  induction file generalizing limit with
  | nil =>
    cases limit with
    | zero => exact .inl (by simp [fgets])
    | succ limit => exact .inr (by simp [fgets])
  | cons byte file ih =>
    cases limit with
    | zero => exact .inl (by simp [fgets])
    | succ limit =>
      by_cases newline : byte = 10
      · exact .inl (by simp [fgets, newline])
      · rcases ih limit with ⟨ended, same⟩ | ⟨whole, short, single⟩
        · refine .inl ⟨?_, fun more => by simp [fgets, newline, same]⟩
          simpa [fgets, newline, Ne.symm newline] using ended
        · refine .inr ⟨by simp [fgets, newline, whole], Nat.succ_lt_succ short, ?_⟩
          simp [Ne.symm newline, single]

/-- `fgets` splits the file. -/
theorem fgets_split (limit : Nat) (file : List UInt8) :
    (fgets limit file).1 ++ (fgets limit file).2 = file := by
  induction file generalizing limit with
  | nil => cases limit <;> simp [fgets]
  | cons byte file ih =>
    cases limit with
    | zero => simp [fgets]
    | succ limit =>
      by_cases newline : byte = 10 <;> simp [fgets, newline, ih]

/-- `fgets` takes something from a file that is not at its end. -/
theorem fgets_shorter {limit : Nat} (positive : 0 < limit) {file : List UInt8}
    (nonempty : file ≠ []) : (fgets limit file).2.length < file.length := by
  have split := congrArg List.length (fgets_split limit file)
  rw [List.length_append] at split
  have taken : (fgets limit file).1 ≠ [] := by
    cases file with
    | nil => exact absurd rfl nonempty
    | cons byte file =>
      obtain ⟨limit, rfl⟩ := Nat.exists_eq_succ_of_ne_zero positive.ne'
      by_cases newline : byte = 10 <;> simp [fgets, newline]
  have := List.length_pos_iff.mpr taken
  omega

/-- What the successive `fgets` calls of the loader return. -/
def pieces (file : List UInt8) : List (List UInt8) :=
  match file with
  | [] => []
  | byte :: rest => (fgets lineMax (byte :: rest)).1 :: pieces (fgets lineMax (byte :: rest)).2
termination_by file.length
decreasing_by exact fgets_shorter (by decide) (List.cons_ne_nil byte rest)

@[simp]
theorem pieces_nil : pieces [] = [] := by rw [pieces]

/-- The first piece and the others. -/
theorem pieces_of_ne_nil {file : List UInt8} (nonempty : file ≠ []) :
    pieces file = (fgets lineMax file).1 :: pieces (fgets lineMax file).2 := by
  cases file with
  | nil => exact absurd rfl nonempty
  | cons byte rest => rw [pieces]

/-- The loop of the loader runs over the pieces. -/
theorem loadLines_eq (turns : Nat) (store : UserStore) (file : List UInt8)
    (enough : file.length ≤ turns) :
    loadLines (fun _ => true) turns store file =
      (pieces file).foldl (fun store piece => loadLine store piece true) store := by
  induction turns generalizing store file with
  | zero =>
    obtain rfl := List.length_eq_zero_iff.mp (Nat.le_zero.mp enough)
    simp [loadLines]
  | succ turns ih =>
    cases file with
    | nil => simp [loadLines]
    | cons byte file =>
      have shorter : (fgets lineMax (byte :: file)).2.length < (byte :: file).length :=
        fgets_shorter (by decide) (List.cons_ne_nil byte file)
      have left : (fgets lineMax (byte :: file)).2.length ≤ turns :=
        Nat.le_of_lt_succ (Nat.lt_of_lt_of_le shorter enough)
      rw [pieces_of_ne_nil (List.cons_ne_nil byte file), List.foldl_cons, ← ih _ _ left]
      rfl

/-- A piece that ends before its newline and before the buffer is full. -/
def Torn (piece : List UInt8) : Prop := piece.length < lineMax ∧ 10 ∉ piece

instance (piece : List UInt8) : Decidable (Torn piece) := inferInstanceAs (Decidable (_ ∧ _))

/-- The torn piece at the end of a file; empty when the file ends with a whole one. -/
def tornTail (file : List UInt8) : List UInt8 :=
  match (pieces file).getLast? with
  | none => []
  | some piece => if Torn piece then piece else []

/-- A file and what is appended to it are cut like the whole pieces of the file, followed by its torn
tail and what is appended. -/
theorem pieces_append (file : List UInt8) :
    ∃ whole, pieces file = whole ++ pieces (tornTail file) ∧ Torn (tornTail file) ∧
      ∀ more, pieces (file ++ more) = whole ++ pieces (tornTail file ++ more) := by
  induction file using pieces.induct with
  | case1 => exact ⟨[], by simp [tornTail, Torn]⟩
  | case2 byte rest ih =>
    have nonempty := List.cons_ne_nil byte rest
    generalize byte :: rest = file at *
    have cut := pieces_of_ne_nil nonempty
    rcases fgets_append lineMax file with ⟨ended, same⟩ | ⟨whole, short, single⟩
    · obtain ⟨whole, former, torn, appended⟩ := ih
      have tail : tornTail file = tornTail (fgets lineMax file).2 := by
        cases left : pieces (fgets lineMax file).2 with
        | nil =>
          have whole : ¬ Torn (fgets lineMax file).1 := ended
          simp [tornTail, cut, left, whole]
        | cons piece more => simp [tornTail, cut, left, List.getLast?_cons_cons]
      refine ⟨(fgets lineMax file).1 :: whole, ?_, tail ▸ torn, fun more => ?_⟩
      · rw [cut, former, tail, List.cons_append]
      · rw [pieces_of_ne_nil (by simp [nonempty]), same, appended, tail, List.cons_append]
    · have tail : tornTail file = file := by
        have torn : Torn file := ⟨short, single⟩
        simp [tornTail, cut, whole, torn]
      exact ⟨[], by rw [tail]; rfl, tail.symm ▸ ⟨short, single⟩, fun more => by rw [tail]; rfl⟩

/-- A torn piece is cut no further. -/
theorem pieces_torn {piece : List UInt8} (torn : Torn piece) (nonempty : piece ≠ []) :
    pieces piece = [piece] := by
  rw [pieces_of_ne_nil nonempty]
  rcases fgets_append lineMax piece with ⟨ended, _⟩ | ⟨whole, _, _⟩
  · -- Everything in the piece is before a newline and before the end of the buffer.
    have split := fgets_split lineMax piece
    refine absurd ⟨?_, fun newline => torn.2 ?_⟩ ended
    · have length := congrArg List.length split
      rw [List.length_append] at length
      exact Nat.lt_of_le_of_lt (by omega) torn.1
    · exact split ▸ List.mem_append_left _ newline
  · rw [whole, pieces_nil]

/-- A short text without newlines is one piece with its newline. -/
theorem pieces_line {line : List UInt8} (single : 10 ∉ line) (short : line.length < lineMax)
    (rest : List UInt8) : pieces (line ++ 10 :: rest) = (line ++ [10]) :: pieces rest := by
  rw [pieces_of_ne_nil (by simp), fgets_line single short]

/-! ## Records -/

/-- `strtok` returns the first token and leaves the text of the others. -/
theorem strtok_cases (text : List UInt8) :
    strtok text = none ∧ tokens isDelimiter text = [] ∨
      ∃ token rest, strtok text = some (token, rest) ∧
        tokens isDelimiter text = token :: tokens isDelimiter rest := by
  have skip : tokens isDelimiter text = tokens isDelimiter (text.dropWhile isDelimiter) := by
    induction text with
    | nil => rfl
    | cons byte text ih =>
      rw [List.dropWhile_cons]
      split
      · rename_i delimits
        rw [tokens_cons delimits, ih]
      · rfl
  rw [strtok, skip]
  cases start : text.dropWhile isDelimiter with
  | nil => exact .inl ⟨rfl, rfl⟩
  | cons byte start' =>
    have visible : isDelimiter byte = false := by
      have head := List.head?_dropWhile_not isDelimiter text
      simpa [start] using head
    refine .inr ⟨_, _, rfl, ?_⟩
    have free : ∀ entry ∈ (byte :: start').takeWhile (!isDelimiter ·), isDelimiter entry = false := by
      intro entry member
      simpa using List.mem_takeWhile_imp member
    have nonempty : (byte :: start').takeWhile (!isDelimiter ·) ≠ [] := by
      simp [visible]
    have split := @List.takeWhile_append_dropWhile _ (!isDelimiter ·) (byte :: start')
    generalize (byte :: start').takeWhile (!isDelimiter ·) = token at free nonempty split ⊢
    cases after : (byte :: start').dropWhile (!isDelimiter ·) with
    | nil =>
      rw [after, List.append_nil] at split
      rw [← split, tokens_free free, if_neg nonempty]
      rfl
    | cons last rest =>
      have delimits : isDelimiter last = true := by
        have head := List.head?_dropWhile_not (!isDelimiter ·) (byte :: start')
        simpa [after] using head
      rw [after] at split
      rw [← split, tokens_free_append_cons nonempty free delimits]
      rfl

/-- A line is read as its first three tokens; a NUL ends it. -/
theorem parseRecord_eq (line : List UInt8) :
    parseRecord line =
      match tokens isDelimiter (CString.ofBytes line).bytes with
      | username :: salt :: hash :: _ =>
        some (CString.ofBytes username, CString.ofBytes salt, CString.ofBytes hash)
      | _ => none := by
  unfold parseRecord
  rcases strtok_cases (CString.ofBytes line).bytes with ⟨first, cut⟩ | ⟨username, rest, first, cut⟩
  · rw [first, cut]
    rfl
  rcases strtok_cases rest with ⟨second, cut'⟩ | ⟨salt, rest', second, cut'⟩
  · rw [first, cut, cut']
    simp [second]
  rcases strtok_cases rest' with ⟨third, cut''⟩ | ⟨hash, rest'', third, cut''⟩
  · rw [first, cut, cut', cut'']
    simp [second, third]
  · rw [first, cut, cut', cut'']
    simp [second, third]

/-- The record the loader makes of a piece, if it accepts one. -/
def readRecord (piece : List UInt8) : Option User :=
  (parseRecord piece).bind fun (username, salt, hash) =>
    if validUsername username ∧ salt.length = saltHexLen ∧ hash.length = passwordHashHexLen then
      some (createUser username salt hash)
    else none

/-- Insert a record unless its name is taken. -/
def insertRecord (store : UserStore) (user : User) : UserStore := (insertUserLocked store user).getD store

/-- What the loader accepts has a legal name and is offline. -/
theorem readRecord_some {piece : List UInt8} {user : User} (read : readRecord piece = some user) :
    validUsername user.username.toCString = true ∧ user.online = false ∧ user.socketFd = -1 := by
  simp only [readRecord, Option.bind_eq_some_iff] at read
  obtain ⟨⟨username, salt, hash⟩, _, read⟩ := read
  split at read
  · rename_i accepted
    obtain rfl := Option.some.inj read
    refine ⟨?_, rfl, rfl⟩
    rw [UserStore.createUser_username accepted.1]
    exact accepted.1
  · contradiction

/-- One turn of the loader admits the record read from its piece. -/
theorem loadLine_eq (store : UserStore) (piece : List UInt8) :
    loadLine store piece true = (readRecord piece).elim store (insertRecord store) := by
  unfold loadLine readRecord
  cases parsed : parseRecord piece with
  | none => rfl
  | some fields =>
    obtain ⟨username, salt, hash⟩ := fields
    simp only [Option.bind_some, Bool.not_true, Bool.or_false, Bool.or_eq_true, Bool.not_eq_true',
      decide_eq_true_eq]
    by_cases accepted : validUsername username ∧ salt.length = saltHexLen ∧
        hash.length = passwordHashHexLen
    · rw [if_pos accepted, Option.elim_some, insertRecord]
      by_cases taken : (findUserLocked store username).isSome
      · rw [if_pos (.inr taken), insertUserLocked, UserStore.createUser_username accepted.1,
          if_pos taken, Option.getD_none]
      · rw [if_neg]
        simp [accepted, taken]
    · rw [if_neg accepted, Option.elim_none, if_pos]
      rcases not_and_or.mp accepted with illegal | wrong
      · exact .inl (.inl (.inl (by simpa using illegal)))
      rcases not_and_or.mp wrong with short | short
      · exact .inl (.inl (.inr short))
      · exact .inl (.inr short)

/-- Loading a file into a fresh store admits the records of its pieces in their order. -/
theorem userStoreLoad_eq (file : List UInt8) :
    userStoreLoad true (fun _ => true) file userStoreInit =
      (.ok, ((pieces file).filterMap readRecord).foldl insertRecord userStoreInit) := by
  rw [userStoreLoad, if_pos rfl, loadLines_eq _ _ _ (Nat.le_refl _), List.foldl_filterMap]
  congr 2
  funext store piece
  rw [loadLine_eq]
  cases readRecord piece <;> rfl

namespace UserStore

variable {store : UserStore}

/-- Admitting a legal record puts it in front of the scan unless its name is taken. -/
theorem WellFormed.insertRecord (wellFormed : store.WellFormed) {user : User}
    (valid : validUsername user.username.toCString = true)
    (detached : user.online = false → user.socketFd = -1) :
    (insertRecord store user).WellFormed ∧ (insertRecord store user).users =
      if ∃ other ∈ store.users, other.username.toCString = user.username.toCString then store.users
      else user :: store.users := by
  unfold MultiUserChat.insertRecord
  cases done : insertUserLocked store user with
  | none =>
    have taken : ∃ other ∈ store.users, other.username.toCString = user.username.toCString := by
      by_contra fresh
      simp only [not_exists, not_and] at fresh
      rw [insertUserLocked, (wellFormed.find_none user.username.toCString).mpr fresh] at done
      simp at done
    rw [if_pos taken]
    exact ⟨wellFormed, rfl⟩
  | some inserted =>
    have fresh : ¬ ∃ other ∈ store.users, other.username.toCString = user.username.toCString := by
      rintro ⟨other, member, same⟩
      unfold insertUserLocked at done
      split at done
      · contradiction
      · rename_i missing
        exact (wellFormed.find_none user.username.toCString).mp (by simpa using missing) other
          member same
    rw [if_neg fresh]
    exact wellFormed.insert valid detached done

/-- What can be admitted: an offline record with a legal name. -/
structure Admissible (user : User) : Prop where
  /-- The name is legal. -/
  valid : validUsername user.username.toCString = true
  /-- Nobody is logged in. -/
  offline : user.online = false
  /-- There is no descriptor. -/
  detached : user.socketFd = -1

/-- Whether a user has the name. -/
def hasName (username : CString) (user : User) : Bool := user.username.toCString = username

/-- Admitting records one after another keeps the invariant, and each name is afterwards found at its
first record. -/
theorem WellFormed.insertRecords (wellFormed : store.WellFormed) {records : List User}
    (admissible : ∀ user ∈ records, Admissible user) :
    (records.foldl MultiUserChat.insertRecord store).WellFormed ∧
      ∀ username, (records.foldl MultiUserChat.insertRecord store).users.find? (hasName username) =
        (store.users.find? (hasName username)).or (records.find? (hasName username)) := by
  induction records generalizing store with
  | nil => exact ⟨wellFormed, fun username => by simp⟩
  | cons user records ih =>
    obtain ⟨first, rest⟩ := List.forall_mem_cons.mp admissible
    obtain ⟨kept, listed⟩ := wellFormed.insertRecord first.valid fun _ => first.detached
    obtain ⟨finally_, found⟩ := ih kept rest
    refine ⟨finally_, fun username => ?_⟩
    rw [List.foldl_cons, found, listed, List.find?_cons]
    split
    · rename_i taken
      obtain ⟨other, member, same⟩ := taken
      cases named : hasName username user with
      | false => rfl
      | true =>
        -- The name is already found in the store.
        have holds : hasName username other = true := by simpa [hasName, same] using named
        cases search : store.users.find? (hasName username) with
        | none => exact absurd holds (by simpa using List.find?_eq_none.mp search other member)
        | some _ => rfl
    · rename_i fresh
      rw [List.find?_cons]
      cases named : hasName username user with
      | false => rfl
      | true =>
        cases search : store.users.find? (hasName username) with
        | none => rfl
        | some other =>
          have holds := List.find?_some search
          simp only [hasName, decide_eq_true_eq] at holds named
          exact absurd ⟨other, List.mem_of_find?_eq_some search, holds.trans named.symm⟩ fresh

/-- Admitting records with new names lists all of them. -/
theorem WellFormed.insertRecords_fresh (wellFormed : store.WellFormed) {records : List User}
    (admissible : ∀ user ∈ records, Admissible user)
    (distinct : ((store.users.reverse ++ records).map fun user => user.username.toCString).Nodup) :
    (records.foldl MultiUserChat.insertRecord store).WellFormed ∧
      (records.foldl MultiUserChat.insertRecord store).users = records.reverse ++ store.users := by
  induction records generalizing store with
  | nil => exact ⟨wellFormed, by simp⟩
  | cons user records ih =>
    obtain ⟨first, rest⟩ := List.forall_mem_cons.mp admissible
    obtain ⟨kept, listed⟩ := wellFormed.insertRecord first.valid fun _ => first.detached
    rw [if_neg] at listed
    · obtain ⟨finally_, all⟩ := ih kept rest (by simpa [listed] using distinct)
      refine ⟨finally_, ?_⟩
      rw [List.foldl_cons, all, listed, List.reverse_cons, List.append_assoc,
        List.singleton_append]
    · rintro ⟨other, member, same⟩
      rw [List.map_append, List.nodup_append] at distinct
      exact distinct.2.2 _ (List.mem_map_of_mem (List.mem_reverse.mpr member)) _
        (List.mem_map_of_mem List.mem_cons_self) same

/-- Well-formed stores with the same records are the same, chains included. -/
theorem WellFormed.eq_of_nodes {other : UserStore} (wellFormed : store.WellFormed)
    (otherFormed : other.WellFormed) (same : store.nodes = other.nodes) : store = other := by
  have head : store.head = other.head := by rw [wellFormed.listed, otherFormed.listed, same]
  have buckets : store.buckets = other.buckets := by
    funext bucket
    rw [wellFormed.bucketed, otherFormed.bucketed, head, same]
  obtain ⟨nodes, first, chains⟩ := store
  obtain ⟨nodes', first', chains'⟩ := other
  simp only at same head buckets
  rw [same, head, buckets]

end UserStore

end MultiUserChat
