import MultiUserChat.Verif.StorageFile
/-!
# Lines of records

What the loader reads from the line written for a record. A line of its own is read back as the record,
whatever the bytes of the name; a line behind a torn tail is cut together with the tail, and what
remains of it when the buffer is full is a line of its own.
-/

namespace MultiUserChat

/-! ## Record lines -/

/-- A record whose line is read back: a legal name and a salt and hash of the right lengths without
delimiters. -/
structure Storable (user : User) : Prop where
  /-- The name is legal. -/
  name : validUsername user.username.toCString = true
  /-- The salt has its length. -/
  saltLength : user.salt.bytes.length = saltHexLen
  /-- The hash has its length. -/
  hashLength : user.passwordHash.bytes.length = passwordHashHexLen
  /-- The salt has no delimiters. -/
  saltFree : ∀ byte ∈ user.salt.bytes, isDelimiter byte = false
  /-- The hash has no delimiters. -/
  hashFree : ∀ byte ∈ user.passwordHash.bytes, isDelimiter byte = false

/-- A hexadecimal text has no delimiters. -/
theorem hexText_free (bytes : List UInt8) :
    ∀ char ∈ hexText bytes, isDelimiter char = false := by
  intro char member
  have range := hexText_range bytes char member
  simp only [UInt8.le_iff_toNat_le, UInt8.reduceToNat] at range
  simp only [isDelimiter, Bool.or_eq_false_iff, decide_eq_false_iff_not, ← UInt8.toNat_inj,
    UInt8.reduceToNat]
  omega

/-- A registration adds a record whose line is read back. -/
theorem registeredUser_storable [Sha256] {username : CString}
    (legal : validUsername username = true) (password : CString)
    (salt : List.Vector UInt8 saltBytes) : Storable (registeredUser username password salt) := by
  have saltLength : (bytesToHex salt.toList).length = saltHexLen := by
    change (hexText salt.toList).length = saltHexLen
    rw [hexText_length, salt.toList_length]
    rfl
  have saltBytes_ : (registeredUser username password salt).salt.bytes = hexText salt.toList :=
    congrArg CString.bytes (copyFixed_toCString (by rw [saltLength]; decide))
  have hashBytes : (registeredUser username password salt).passwordHash.bytes =
      (saltedDigest salt.toList password).bytes :=
    congrArg CString.bytes (copyFixed_toCString (by rw [saltedDigest_length]; decide))
  refine ⟨?_, ?_, ?_, ?_, ?_⟩
  · change validUsername (createUser username _ _).username.toCString = true
    rw [UserStore.createUser_username legal]
    exact legal
  · rw [saltBytes_]
    exact saltLength
  · rw [hashBytes]
    exact saltedDigest_length _ _
  · rw [saltBytes_]
    exact hexText_free _
  · rw [hashBytes]
    exact hexText_free _

namespace Storable

variable {user : User}

/-- The name is not empty. -/
theorem name_ne_nil (storable : Storable user) : user.username.bytes ≠ [] := by
  intro empty
  have legal := storable.name
  simp [validUsername, CString.length, empty] at legal

/-- The name has no delimiters. -/
theorem nameFree (storable : Storable user) :
    ∀ byte ∈ user.username.bytes, isDelimiter byte = false := by
  intro byte member
  have legal := storable.name
  simp only [validUsername, CString.contains, Bool.and_eq_true, Bool.not_eq_true',
    List.contains_eq_mem, decide_eq_false_iff_not] at legal
  simp only [isDelimiter, Bool.or_eq_false_iff, decide_eq_false_iff_not]
  exact ⟨fun colon => legal.1.2 (colon ▸ member), fun newline => legal.2 (newline ▸ member)⟩

/-- The salt is not empty. -/
theorem salt_ne_nil (storable : Storable user) : user.salt.bytes ≠ [] := by
  intro empty
  have length := storable.saltLength
  simp [empty] at length

/-- The hash is not empty. -/
theorem hash_ne_nil (storable : Storable user) : user.passwordHash.bytes ≠ [] := by
  intro empty
  have length := storable.hashLength
  simp [empty] at length

end Storable

/-- The text of a line, without its newline. -/
def lineText (user : User) : List UInt8 :=
  user.username.bytes ++ 58 :: (user.salt.bytes ++ 58 :: user.passwordHash.bytes)

/-- A line is its text and a newline. -/
theorem recordLine_eq (user : User) : recordLine user = lineText user ++ [10] := by
  simp [recordLine, lineText]

namespace Storable

variable {user : User}

/-- The length of the text of a line. -/
theorem lineText_length (storable : Storable user) :
    (lineText user).length = user.username.bytes.length + 98 := by
  simp only [lineText, List.length_append, List.length_cons, storable.saltLength,
    storable.hashLength, saltHexLen, passwordHashHexLen]

/-- The text of a line fits a read of the loader. -/
theorem lineText_short (storable : Storable user) : (lineText user).length < lineMax := by
  have fits : user.username.bytes.length < 32 := user.username.fits
  rw [storable.lineText_length]
  change user.username.bytes.length + 98 < 511
  omega

/-- The text of a line holds neither NULs nor newlines. -/
theorem lineText_single (storable : Storable user) :
    0 ∉ lineText user ∧ 10 ∉ lineText user := by
  have visible : ∀ {bytes : List UInt8}, (∀ byte ∈ bytes, isDelimiter byte = false) → 10 ∉ bytes :=
    fun free member => absurd (free 10 member) (by decide)
  simp only [lineText, List.mem_append, List.mem_cons, not_or]
  exact ⟨⟨user.username.nulFree, by decide, user.salt.nulFree, by decide,
    user.passwordHash.nulFree⟩, visible storable.nameFree, by decide,
    visible storable.saltFree, by decide, visible storable.hashFree⟩

/-- The tokens of a line cut short after a name that continues a text: the name with what is in
front of it, and what is left of the salt and the hash. -/
theorem tokens_cut (storable : Storable user) {front : List UInt8}
    (free : ∀ byte ∈ front, isDelimiter byte = false) {count : Nat} (positive : 0 < count) :
    tokens isDelimiter (front ++ (recordLine user).take count) =
      (front ++ user.username.bytes.take count) :: tokens isDelimiter
        ((user.salt.bytes ++ 58 :: (user.passwordHash.bytes ++ [10])).take
          (count - (user.username.bytes.length + 1))) := by
  have line : front ++ (recordLine user).take count =
      ((front ++ user.username.bytes) ++ 58 ::
        (user.salt.bytes ++ 58 :: (user.passwordHash.bytes ++ [10]))).take (front.length + count) := by
    rw [List.append_assoc, List.take_length_add_append]
    simp [recordLine]
  have freeName : ∀ byte ∈ front ++ user.username.bytes, isDelimiter byte = false :=
    List.forall_mem_append.mpr ⟨free, storable.nameFree⟩
  rw [line, tokens_take_append_cons (by simp [storable.name_ne_nil]) freeName (by decide) _
    (by omega), List.take_length_add_append, List.length_append]
  congr 3
  omega

/-- The tokens left of the salt and the hash of a line cut short. -/
theorem tokens_cut_rest (storable : Storable user) (count : Nat) :
    tokens isDelimiter ((user.salt.bytes ++ 58 :: (user.passwordHash.bytes ++ [10])).take count) =
      if count = 0 then []
      else user.salt.bytes.take count ::
        if count ≤ 33 then [] else [user.passwordHash.bytes.take (count - 33)] := by
  by_cases none_ : count = 0
  · simp [none_]
  rw [if_neg none_, tokens_take_append_cons storable.salt_ne_nil storable.saltFree (by decide) _
    (Nat.pos_of_ne_zero none_), storable.saltLength]
  by_cases short : count ≤ 33
  · have nothing : count - (saltHexLen + 1) = 0 := Nat.sub_eq_zero_of_le short
    rw [if_pos short, nothing, List.take_zero, tokens_nil]
  · have more : 0 < count - (saltHexLen + 1) := Nat.sub_pos_of_lt (Nat.not_le.mp short)
    rw [if_neg short, tokens_take_append_cons storable.hash_ne_nil storable.hashFree (by decide) []
      more, List.take_nil, tokens_nil]

/-- The tokens of a whole line, and of one without its newline. -/
theorem tokens_line (storable : Storable user) {count : Nat}
    (enough : user.username.bytes.length + 98 ≤ count) :
    tokens isDelimiter ((recordLine user).take count) =
      [user.username.bytes, user.salt.bytes, user.passwordHash.bytes] := by
  have cut := storable.tokens_cut (fun byte member => absurd member List.not_mem_nil)
    (by omega : 0 < count)
  have name : user.username.bytes.take count = user.username.bytes :=
    List.take_of_length_le (by omega)
  have salt : user.salt.bytes.take (count - (user.username.bytes.length + 1)) = user.salt.bytes := by
    refine List.take_of_length_le ?_
    rw [storable.saltLength]
    change 32 ≤ _
    omega
  have hash : user.passwordHash.bytes.take (count - (user.username.bytes.length + 1) - 33) =
      user.passwordHash.bytes := by
    refine List.take_of_length_le ?_
    rw [storable.hashLength]
    change 64 ≤ _
    omega
  rwa [List.nil_append, List.nil_append, storable.tokens_cut_rest, if_neg (by omega),
    if_neg (by omega), name, salt, hash] at cut

end Storable

/-! ## Reading a record -/

/-- The bytes of a token are those of a C string. -/
theorem ofBytes_token {piece token : List UInt8}
    (member : token ∈ tokens isDelimiter (CString.ofBytes piece).bytes) :
    (CString.ofBytes token).bytes = token :=
  CString.takeWhile_nulFree fun zero =>
    (CString.ofBytes piece).nulFree (mem_of_mem_tokens member zero)

/-- A piece is read as a record exactly when its first three tokens are those of the record. -/
theorem readRecord_iff {user : User} (storable : Storable user) (piece : List UInt8) :
    (readRecord piece).map User.record = some user.record ↔
      [user.username.bytes, user.salt.bytes, user.passwordHash.bytes] <+:
        tokens isDelimiter (CString.ofBytes piece).bytes := by
  unfold readRecord
  rw [parseRecord_eq]
  constructor
  · intro read
    split at read
    · rename_i username salt hash more cut
      simp only [Option.bind_some] at read
      split at read
      · rename_i accepted
        have member : ∀ token ∈ [username, salt, hash],
            token ∈ tokens isDelimiter (CString.ofBytes piece).bytes := by
          rw [cut]
          simp +contextual
        obtain ⟨legal, saltLength, hashLength⟩ := accepted
        simp only [Option.map_some, User.record, createUser, Option.some.injEq, Prod.mk.injEq] at read
        obtain ⟨sameName, sameSalt, sameHash⟩ := read
        have fits : (CString.ofBytes username).length < usernameMaxLen := by
          simp only [validUsername, Bool.and_eq_true, decide_eq_true_eq] at legal
          exact legal.1.1.2
        have copied : ∀ {size : Nat} [NeZero size] {token : List UInt8} {array : FixedString size},
            token ∈ [username, salt, hash] → (CString.ofBytes token).length < size →
              copyFixed size (CString.ofBytes token) = array → array.bytes = token := by
          rintro size _ token _ inside short rfl
          rw [copyFixed_toCString short]
          exact ofBytes_token (member token inside)
        rw [cut, copied (by simp) fits sameName,
          copied (by simp) (by rw [saltLength]; decide) sameSalt,
          copied (by simp) (by rw [hashLength]; decide) sameHash]
        exact ⟨more, rfl⟩
      · contradiction
    · simp at read
  · rintro ⟨more, cut⟩
    rw [← cut]
    simp [storable.name, CString.length, storable.saltLength, storable.hashLength, User.record,
      createUser]

/-! ## A line behind a torn tail -/

/-- A text that holds a NUL is read the same whatever follows. -/
theorem ofBytes_append_of_mem {text : List UInt8} (nul : 0 ∈ text) (later : List UInt8) :
    CString.ofBytes (text ++ later) = CString.ofBytes text := by
  obtain ⟨front, rest, rfl, free⟩ := List.eq_append_cons_of_mem nul
  apply CString.ext
  rw [List.append_assoc, List.cons_append]
  exact (CString.takeWhile_append_nul free _).trans (CString.takeWhile_append_nul free _).symm

/-- A line cut short holds no NUL. -/
theorem Storable.take_nulFree {user : User} (storable : Storable user) (count : Nat) :
    0 ∉ (recordLine user).take count := by
  intro member
  have inside := List.mem_of_mem_take member
  rw [recordLine_eq, List.mem_append] at inside
  exact inside.elim storable.lineText_single.1 (by decide)

/-- Delimiters on one line are colons. -/
theorem eq_colon {text : List UInt8} (single : 10 ∉ text) {byte : UInt8} (member : byte ∈ text)
    (delimits : isDelimiter byte = true) : byte = 58 := by
  simp only [isDelimiter, Bool.or_eq_true, decide_eq_true_eq] at delimits
  exact delimits.resolve_right fun newline => single (newline ▸ member)

section

variable {user : User} {tail : List UInt8} {count : Nat}

/-- A line behind a tail that is read as its record: the three tokens end in the line, and they begin
in it or the tail ends in the hash. -/
theorem Storable.tail_of_glued (storable : Storable user) (single : 10 ∉ tail) (room : 0 < count)
    (fresh : ¬ [user.username.bytes, user.salt.bytes, user.passwordHash.bytes] <+:
      tokens isDelimiter tail)
    (read : [user.username.bytes, user.salt.bytes, user.passwordHash.bytes] <+:
      tokens isDelimiter (tail ++ (recordLine user).take count)) :
    (∀ byte ∈ tail, byte = 58) ∧ user.username.bytes.length + 98 ≤ count ∨
      tail.getLast? ≠ some 58 ∧ ∃ piece,
        tokens isDelimiter tail = [user.username.bytes, user.salt.bytes, piece] ∧
          piece ++ user.username.bytes.take count = user.passwordHash.bytes := by
  have nameShort : user.username.bytes.length < 32 := user.username.fits
  have saltLength : user.salt.bytes.length = 32 := storable.saltLength
  have hashLength : user.passwordHash.bytes.length = 64 := storable.hashLength
  obtain ⟨front, part, rfl, closed, free⟩ := exists_closed isDelimiter tail
  have own : tokens isDelimiter (front ++ part) =
      tokens isDelimiter front ++ if part = [] then [] else [part] := by
    rw [closed.tokens_append, tokens_free free]
  rw [List.append_assoc, closed.tokens_append, storable.tokens_cut free room,
    storable.tokens_cut_rest] at read
  rw [own] at fresh ⊢
  generalize before : tokens isDelimiter front = tokensBefore at read fresh
  rcases tokensBefore with _ | ⟨first, _ | ⟨second, _ | ⟨third, rest⟩⟩⟩
  · -- All three tokens begin in the line, so the tail is delimiters and the hash is not cut.
    simp only [List.nil_append, List.cons_prefix_cons] at read
    obtain ⟨name, rest⟩ := read
    split_ifs at rest with nothing little
    · simp at rest
    · simp at rest
    · simp only [List.cons_prefix_cons, List.nil_prefix, and_true] at rest
      have uncut := congrArg List.length rest.2
      rw [List.length_take, hashLength] at uncut
      have wholeName : user.username.bytes.take count = user.username.bytes :=
        List.take_of_length_le (by omega)
      rw [wholeName, List.self_eq_append_left] at name
      refine .inl ⟨fun byte member => ?_, by omega⟩
      rw [name, List.append_nil] at member single
      exact eq_colon single member (tokens_eq_nil.mp before byte member)
  · -- The hash would be a part of the salt.
    simp only [List.cons_append, List.nil_append, List.cons_prefix_cons] at read
    obtain ⟨-, -, rest⟩ := read
    split_ifs at rest with nothing little
    · simp at rest
    all_goals
      simp only [List.cons_prefix_cons, List.nil_prefix, and_true] at rest
      have cut := congrArg List.length rest
      rw [List.length_take, hashLength] at cut
      omega
  · -- The name and the salt stand in the tail, and the hash ends in the name of the line.
    simp only [List.cons_append, List.nil_append, List.cons_prefix_cons, List.nil_prefix,
      and_true] at read
    obtain ⟨rfl, rfl, hash⟩ := read
    have nonempty : part ≠ [] := by
      rintro rfl
      have cut := congrArg List.length hash
      rw [List.nil_append, List.length_take, hashLength] at cut
      omega
    refine .inr ⟨fun colon => ?_, part, by rw [if_neg nonempty]; rfl, hash.symm⟩
    rw [List.getLast?_append_of_ne_nil _ nonempty] at colon
    exact absurd (free 58 (List.mem_of_getLast? colon)) (by decide)
  · -- The tail would be read as the record itself.
    simp only [List.cons_append, List.cons_prefix_cons, List.nil_prefix, and_true] at read fresh
    exact absurd read fresh

/-- A line behind colons that leave room for it, or behind a tail that holds the missing parts, is read
as its record. -/
theorem Storable.glued_of_tail (storable : Storable user) (single : 10 ∉ tail) (room : 0 < count)
    (harmless : (∀ byte ∈ tail, byte = 58) ∧ user.username.bytes.length + 98 ≤ count ∨
      tail.getLast? ≠ some 58 ∧ ∃ piece,
        tokens isDelimiter tail = [user.username.bytes, user.salt.bytes, piece] ∧
          piece ++ user.username.bytes.take count = user.passwordHash.bytes) :
    [user.username.bytes, user.salt.bytes, user.passwordHash.bytes] <+:
      tokens isDelimiter (tail ++ (recordLine user).take count) := by
  obtain ⟨front, part, rfl, closed, free⟩ := exists_closed isDelimiter tail
  have own : tokens isDelimiter (front ++ part) =
      tokens isDelimiter front ++ if part = [] then [] else [part] := by
    rw [closed.tokens_append, tokens_free free]
  rw [List.append_assoc, closed.tokens_append]
  rcases harmless with ⟨colons, fits⟩ | ⟨ends, piece, cut, hash⟩
  · have none_ : tokens isDelimiter (front ++ part) = [] :=
      tokens_eq_nil.mpr fun byte member => colons byte member ▸ rfl
    rw [own, List.append_eq_nil_iff] at none_
    have empty : part = [] := by
      by_contra nonempty
      simp [nonempty] at none_
    rw [none_.1, empty, List.nil_append, List.nil_append, storable.tokens_line fits]
  · have nonempty : part ≠ [] := by
      rintro rfl
      obtain rfl | ⟨front, last, rfl, delimits⟩ := closed
      · simp at cut
      · rw [List.append_nil] at ends single
        rw [eq_colon single (List.mem_append_right _ List.mem_cons_self) delimits] at ends
        simp at ends
    rw [own, if_neg nonempty] at cut
    obtain ⟨before, same⟩ := List.append_inj' (cut.trans (List.append_cons [_] _ [_])) rfl
    rw [before, storable.tokens_cut free room, List.singleton_inj.mp same, hash]
    exact ⟨_, rfl⟩

end

/-- The first line behind a torn tail is read as its record exactly when the tail is colons and leaves
room for the line, or already holds the name, the salt and the missing part of the hash. A tail
that is itself read as the record is excluded. -/
theorem glued_iff {user : User} (storable : Storable user) {tail : List UInt8} (torn : Torn tail)
    (fresh : ¬ [user.username.bytes, user.salt.bytes, user.passwordHash.bytes] <+:
      tokens isDelimiter (CString.ofBytes tail).bytes) :
    [user.username.bytes, user.salt.bytes, user.passwordHash.bytes] <+: tokens isDelimiter
        (CString.ofBytes (tail ++ (recordLine user).take (lineMax - tail.length))).bytes ↔
      (∀ byte ∈ tail, byte = 58) ∧ tail.length + user.username.bytes.length + 98 ≤ lineMax ∨
        0 ∉ tail ∧ tail.getLast? ≠ some 58 ∧ ∃ piece,
          tokens isDelimiter tail = [user.username.bytes, user.salt.bytes, piece] ∧
            piece ++ user.username.bytes.take (lineMax - tail.length) = user.passwordHash.bytes := by
  obtain ⟨short, single⟩ := torn
  have room : 0 < lineMax - tail.length := Nat.sub_pos_of_lt short
  by_cases nul : 0 ∈ tail
  · rw [ofBytes_append_of_mem nul, iff_false_intro fresh, false_iff, not_or]
    refine ⟨fun colons => ?_, fun coincidence => coincidence.1 nul⟩
    exact absurd (colons.1 0 nul) (by decide)
  have whole : (CString.ofBytes tail).bytes = tail := CString.takeWhile_nulFree nul
  have glued : (CString.ofBytes (tail ++ (recordLine user).take (lineMax - tail.length))).bytes =
      tail ++ (recordLine user).take (lineMax - tail.length) :=
    CString.takeWhile_nulFree fun member =>
      (List.mem_append.mp member).elim nul (storable.take_nulFree _)
  rw [whole] at fresh
  rw [glued]
  have fits : tail.length + user.username.bytes.length + 98 ≤ lineMax ↔
      user.username.bytes.length + 98 ≤ lineMax - tail.length := by
    omega
  rw [fits]
  constructor
  · intro read
    exact (storable.tail_of_glued single room fresh read).imp id fun coincidence =>
      ⟨nul, coincidence⟩
  · intro harmless
    exact storable.glued_of_tail single room (harmless.imp id And.right)

/-- The pieces of a file in which a line follows a torn tail: the tail and what fits of the line, what
does not fit, and the rest. -/
theorem pieces_glued {user : User} (storable : Storable user) {tail : List UInt8}
    (torn : Torn tail) (rest : List UInt8) :
    pieces (tail ++ recordLine user ++ rest) =
      (tail ++ (recordLine user).take (lineMax - tail.length)) ::
        ((if (recordLine user).drop (lineMax - tail.length) = [] then []
          else [(recordLine user).drop (lineMax - tail.length)]) ++ pieces rest) := by
  obtain ⟨short, single⟩ := torn
  have textSingle := storable.lineText_single.2
  by_cases fits : tail.length + (lineText user).length < lineMax
  · have line : tail ++ recordLine user ++ rest = (tail ++ lineText user) ++ 10 :: rest := by
      simp [recordLine_eq]
    have whole : (recordLine user).length ≤ lineMax - tail.length := by
      rw [recordLine_eq, List.length_append, List.length_singleton]
      omega
    rw [line, pieces_line (by simp [single, textSingle]) (by simpa using fits),
      List.take_of_length_le whole, List.drop_of_length_le whole, if_pos rfl, recordLine_eq]
    simp
  · -- The buffer is full before the newline; what is left is a line of its own.
    generalize count : lineMax - tail.length = fitting
    have inside : fitting ≤ (lineText user).length := by omega
    have taken : (tail ++ recordLine user ++ rest).take lineMax =
        tail ++ (lineText user).take fitting := by
      rw [List.append_assoc, List.take_append, List.take_of_length_le (Nat.le_of_lt short), count,
        recordLine_eq, List.append_assoc, List.take_append_of_le_length inside]
    have dropped : (tail ++ recordLine user ++ rest).drop lineMax =
        (lineText user).drop fitting ++ 10 :: rest := by
      rw [List.append_assoc, List.drop_append, List.drop_of_length_le (Nat.le_of_lt short), count,
        List.nil_append, recordLine_eq, List.append_assoc, List.drop_append_of_le_length inside]
      rfl
    have full : fgets lineMax (tail ++ recordLine user ++ rest) =
        (tail ++ (lineText user).take fitting, (lineText user).drop fitting ++ 10 :: rest) := by
      rw [fgets_full, taken, dropped]
      · rw [taken, List.mem_append, not_or]
        exact ⟨single, fun member => textSingle (List.mem_of_mem_take member)⟩
      · simp only [recordLine_eq, List.length_append, List.length_singleton]
        omega
    have leftShort : ((lineText user).drop fitting).length < lineMax := by
      rw [List.length_drop]
      exact Nat.lt_of_le_of_lt (Nat.sub_le _ _) storable.lineText_short
    rw [pieces_of_ne_nil (by simp [recordLine_eq]), full,
      pieces_line (fun member => textSingle (List.mem_of_mem_drop member)) leftShort, recordLine_eq,
      List.take_append_of_le_length inside, List.drop_append_of_le_length inside, if_neg (by simp)]
    rfl

/-- Lines on their own are pieces on their own. -/
theorem pieces_lines {records : List User} (storable : ∀ user ∈ records, Storable user) :
    pieces (records.flatMap recordLine) = records.map recordLine := by
  induction records with
  | nil => simp
  | cons user records ih =>
    obtain ⟨first, rest⟩ := List.forall_mem_cons.mp storable
    rw [List.flatMap_cons, recordLine_eq, List.append_assoc, List.singleton_append,
      pieces_line first.lineText_single.2 first.lineText_short, ih rest, ← recordLine_eq,
      List.map_cons]

/-- A line of its own is read as its record. -/
theorem Storable.readRecord_line {user : User} (storable : Storable user) :
    (readRecord (recordLine user)).map User.record = some user.record := by
  have nulFree : 0 ∉ recordLine user := by
    simpa using storable.take_nulFree (recordLine user).length
  have fits : user.username.bytes.length + 98 ≤ (recordLine user).length := by
    rw [recordLine_eq, List.length_append, storable.lineText_length]
    exact Nat.le_add_right _ _
  have cut := storable.tokens_line fits
  have whole : (CString.ofBytes (recordLine user)).bytes = recordLine user :=
    CString.takeWhile_nulFree nulFree
  rw [List.take_length] at cut
  rw [readRecord_iff storable, whole, cut]

/-- The record read from a line that has lost the front of its name. -/
def ghost (user : User) (lost : Nat) : User :=
  createUser (user.username.toCString.drop lost) user.salt.toCString user.passwordHash.toCString

/-- The name of such a record is what is left of the name; salt and hash are those of the line. -/
theorem ghost_fields (user : User) (lost : Nat) :
    (ghost user lost).username.bytes = user.username.bytes.drop lost ∧
      (ghost user lost).salt = user.salt ∧ (ghost user lost).passwordHash = user.passwordHash := by
  have short : (user.username.toCString.drop lost).length < usernameMaxLen := by
    change (user.username.bytes.drop lost).length < usernameMaxLen
    have fits := user.username.fits
    rw [List.length_drop]
    omega
  exact ⟨congrArg CString.bytes (copyFixed_toCString short), copyFixed_self _, copyFixed_self _⟩

/-- If something is left of the name, such a record is one that can be stored. -/
theorem Storable.ghost_storable {user : User} (storable : Storable user) {lost : Nat}
    (left : user.username.bytes.drop lost ≠ []) : Storable (ghost user lost) := by
  obtain ⟨name, salt, hash⟩ := ghost_fields user lost
  refine ⟨?_, ?_, ?_, ?_, ?_⟩
  · have legal := storable.name
    have fits := (ghost user lost).username.fits
    simp only [validUsername, CString.length, CString.contains, Bool.and_eq_true, Bool.not_eq_true',
      List.contains_eq_mem, decide_eq_false_iff_not, decide_eq_true_eq, name] at legal fits ⊢
    exact ⟨⟨⟨by simpa [Nat.sub_eq_zero_iff_le] using left, fits⟩, fun colon => legal.1.2 (List.mem_of_mem_drop colon)⟩,
      fun newline => legal.2 (List.mem_of_mem_drop newline)⟩
  · rw [salt]
    exact storable.saltLength
  · rw [hash]
    exact storable.hashLength
  · rw [salt]
    exact storable.saltFree
  · rw [hash]
    exact storable.hashFree

/-- A piece with fewer than three tokens is not read as a record. -/
theorem readRecord_few {piece : List UInt8}
    (few : (tokens isDelimiter (CString.ofBytes piece).bytes).length < 3) :
    readRecord piece = none := by
  rw [readRecord, parseRecord_eq]
  split
  · rename_i cut
    rw [cut] at few
    simp only [List.length_cons] at few
    omega
  · rfl

/-- Nothing is read from nothing. -/
theorem readRecord_nil : readRecord [] = none := readRecord_few (by decide)

/-- What does not fit of a line is read as a record as long as something is left of the name. -/
theorem Storable.readRecord_drop {user : User} (storable : Storable user) (lost : Nat) :
    (readRecord ((recordLine user).drop lost)).map User.record =
      if user.username.bytes.drop lost = [] then none
      else some (ghost user lost).record := by
  have line : recordLine user = user.username.bytes ++ 58 ::
      (user.salt.bytes ++ 58 :: (user.passwordHash.bytes ++ [10])) := by simp [recordLine]
  split
  · rename_i gone
    have nulFree : 0 ∉ (recordLine user).drop lost := fun member =>
      storable.take_nulFree (recordLine user).length (by simpa using List.mem_of_mem_drop member)
    have whole : (CString.ofBytes ((recordLine user).drop lost)).bytes =
        (recordLine user).drop lost := CString.takeWhile_nulFree nulFree
    -- The salt and the hash are the only tokens left, if they are.
    have rest : (tokens isDelimiter (58 ::
        (user.salt.bytes ++ 58 :: (user.passwordHash.bytes ++ [10])))).length = 2 := by
      have cut := storable.tokens_cut_rest 98
      rw [List.take_of_length_le (by
        simp [storable.saltLength, storable.hashLength, saltHexLen, passwordHashHexLen])] at cut
      rw [tokens_cons (by decide), cut]
      rfl
    have fewer := tokens_drop_length_le isDelimiter (lost - user.username.bytes.length)
      (58 :: (user.salt.bytes ++ 58 :: (user.passwordHash.bytes ++ [10])))
    rw [readRecord_few, Option.map_none]
    rw [whole, line, List.drop_append, gone, List.nil_append]
    omega
  · rename_i left
    obtain ⟨name, salt, hash⟩ := ghost_fields user lost
    have inside : lost ≤ user.username.bytes.length := by
      by_contra beyond
      exact left (List.drop_of_length_le (by omega))
    have shorter : (recordLine user).drop lost = recordLine (ghost user lost) := by
      rw [line, List.drop_append_of_le_length inside]
      simp [recordLine, name, salt, hash]
    rw [shorter]
    exact (storable.ghost_storable left).readRecord_line

end MultiUserChat
