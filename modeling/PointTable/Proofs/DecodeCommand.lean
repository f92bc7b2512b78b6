import PointTable.Proofs.Codec.Values
import PointTable.Proofs.Printing

/-!
# Decoding words on the command line

The window of a request is as long as its type and length ask for, has at least one word, starts at
the offset and lies inside the words. If there is one, its value is printed. If there is none, the
run fails, except that a length below zero can pass for a window: an array then prints as empty, and
a string as words up to an end before its offset.
-/

namespace PointTable.CommandLine

open Text Codec

theorem readWord_lt {typed : String} {word : Nat} (read : readWord typed = .ok word) :
    word < 65536 := by
  unfold readWord at read
  simp only at read
  split at read
  · cases read
  · split at read
    next range =>
      obtain rfl := Except.ok.inj read
      omega
    next => cases read

theorem readWords_lt {typed : List String} {words : List Nat} (read : readWords typed = .ok words) :
    ∀ word ∈ words, word < 65536 := by
  induction typed generalizing words with
  | nil =>
      cases read
      exact List.forall_mem_nil _
  | cons first rest ih =>
      simp only [readWords, Outcome.bind_eq_ok, Outcome.pure_eq_ok, Except.ok.injEq] at read
      obtain ⟨word, readFirst, others, readRest, rfl⟩ := read
      exact List.forall_mem_cons.mpr ⟨readWord_lt readFirst, ih readRest⟩

theorem Fault.Grade.exitCode_ne_zero (grade : Fault.Grade) : grade.exitCode ≠ 0 := by
  cases grade <;> decide

theorem exitCode_conclude_error {α : Type} (verbose : Bool) (fault : Fault)
    (next : String → α → Outcome) :
    (conclude verbose (Report.ofExcept (.error fault)) next).exitCode ≠ 0 :=
  fault.grade.exitCode_ne_zero

/-- A request to decode words, as it is typed. -/
structure DecodeRequest where
  typeName : String
  words : List String
  offset : Int
  length : Option Int
  byteOrder : String
  stringOrder : String
  json : Bool

namespace DecodeRequest

/-- The action that a request asks for. -/
def action (request : DecodeRequest) : Action :=
  .decode request.typeName request.words request.offset request.length request.byteOrder
    request.stringOrder request.json

/-- The type and the value that a request comes to. -/
def decode (request : DecodeRequest) : Except Fault (PointType × Cell) :=
  decodeWords request.typeName request.words request.offset request.length request.byteOrder
    request.stringOrder

/-- What the texts of a request stand for. -/
structure Means (request : DecodeRequest) (pointType : PointType) (words : List Nat)
    (orders : Orders) : Prop where
  pointType : PointType.parse (.text request.typeName) = .ok pointType
  words : readWords request.words = .ok words
  bytes : ByteOrder.ofName (Options.typedName request.byteOrder) = .ok orders.bytes
  strings : StringOrder.ofName (Options.typedName request.stringOrder) = .ok orders.strings

/-- The window that a request asks for lies inside its words. -/
def HasWindow (request : DecodeRequest) : Prop :=
  ∃ pointType words orders window, request.Means pointType words orders ∧
    WindowAt words request.offset (pointType.registerLength request.length) window

/-- A request has a length below zero that nothing refuses. -/
def Strays (request : DecodeRequest) : Prop :=
  ∃ pointType words orders value, request.Means pointType words orders ∧
    StrayValue orders words request.offset request.length pointType value

/-- A run succeeds and prints a value. -/
structure Shows (request : DecodeRequest) (outcome : Outcome) (pointType : PointType)
    (value : Cell) : Prop where
  exitCode : outcome.exitCode = 0
  stdout : ∃ text, decodedText request.json pointType value = .ok text ∧
    outcome.stdout = printed text ++ "\n"

/-- A run that succeeds prints the value of the window, and without a window it fails. -/
structure KeepsToWindow (request : DecodeRequest) (outcome : Outcome) : Prop where
  shows : outcome.exitCode = 0 → ∃ pointType words orders window value,
    request.Means pointType words orders ∧
      WindowAt words request.offset (pointType.registerLength request.length) window ∧
      ValueOf orders pointType window value ∧ request.Shows outcome pointType value
  fails : ¬request.HasWindow → outcome.exitCode ≠ 0

variable {request : DecodeRequest} {pointType pointType' : PointType} {words words' : List Nat}
  {orders orders' : Orders} {value : Cell}

/-- A request stands for one type, one list of words and one pair of orders. -/
theorem Means.unique (means : request.Means pointType words orders)
    (means' : request.Means pointType' words' orders') :
    pointType = pointType' ∧ words = words' ∧ orders = orders' := by
  obtain ⟨type, read, bytes, strings⟩ := means
  obtain ⟨type', read', bytes', strings'⟩ := means'
  refine ⟨Except.ok.inj (type.symm.trans type'), Except.ok.inj (read.symm.trans read'), ?_⟩
  obtain ⟨_, _⟩ := orders
  obtain ⟨_, _⟩ := orders'
  exact congrArg₂ Orders.mk (Except.ok.inj (bytes.symm.trans bytes'))
    (Except.ok.inj (strings.symm.trans strings'))

theorem decode_eq_ok_iff :
    request.decode = .ok (pointType, value) ↔
      ∃ words orders, request.Means pointType words orders ∧
        decodeValue (words.map .ofNat) request.offset pointType
          (pointType.registerLength request.length) (pointType.arrayLength request.length) orders =
            .ok value := by
  simp only [decode, decodeWords, Outcome.bind_eq_ok, Outcome.mapError_eq_ok, Outcome.pure_eq_ok]
  constructor
  · rintro ⟨parsed, type, words, read, bytes, order, strings, order', value, decoded, equal⟩
    obtain ⟨rfl, rfl⟩ := equal
    exact ⟨words, ⟨bytes, strings⟩, ⟨type, read, order, order'⟩, decoded⟩
  · rintro ⟨words, orders, ⟨type, read, order, order'⟩, decoded⟩
    exact ⟨pointType, type, words, read, _, order, _, order', value, decoded, rfl⟩

/-- A request comes to the value of its window, or for a length below zero to a stray one. -/
theorem Means.decode_eq_ok_iff (means : request.Means pointType words orders) :
    request.decode = .ok (pointType, value) ↔
      (∃ window, WindowAt words request.offset (pointType.registerLength request.length) window ∧
        ValueOf orders pointType window value) ∨
      StrayValue orders words request.offset request.length pointType value := by
  rw [DecodeRequest.decode_eq_ok_iff, ← decodeValue_eq_ok_iff (readWords_lt means.words)]
  constructor
  · rintro ⟨words', orders', means', decoded⟩
    obtain ⟨-, rfl, rfl⟩ := means.unique means'
    exact decoded
  · intro decoded
    exact ⟨words, orders, means, decoded⟩

/-- A stray request asks for less than one word, so it has no window. -/
theorem Strays.not_hasWindow (strays : request.Strays) : ¬request.HasWindow := by
  obtain ⟨pointType, words, orders, value, means, stray⟩ := strays
  rintro ⟨pointType', words', orders', window, means', placed⟩
  obtain ⟨rfl, -, -⟩ := means.unique means'
  exact stray.registerLength_lt.not_ge placed.positive

@[simp] theorem perform_action (tree : FileTree) (verbose : Bool) (request : DecodeRequest) :
    perform tree verbose request.action =
      conclude verbose (Report.ofExcept request.decode) fun log result =>
        printingWritten log
          ((decodedText request.json result.1 result.2).map fun text => [text]) :=
  rfl

theorem shows_of_decode (tree : FileTree) (verbose : Bool)
    (decoded : request.decode = .ok (pointType, value)) :
    request.Shows (perform tree verbose request.action) pointType value := by
  obtain ⟨_, _, _, decodedValue⟩ := decode_eq_ok_iff.mp decoded
  have plain := plainValue_of_decodeValue decodedValue
  obtain ⟨text, shown, form⟩ := decodedText_ok request.json pointType plain
  rw [perform_action, decoded, conclude_ok, shown, Outcome.map_ok, printingWritten,
    printing_line _ form]
  exact ⟨rfl, text, shown, rfl⟩

theorem shows_of_exitCode {tree : FileTree} {verbose : Bool}
    (succeeds : (perform tree verbose request.action).exitCode = 0) :
    ∃ pointType words orders value, request.Means pointType words orders ∧
      request.Shows (perform tree verbose request.action) pointType value ∧
      ((∃ window, WindowAt words request.offset (pointType.registerLength request.length) window ∧
          ValueOf orders pointType window value) ∨
        StrayValue orders words request.offset request.length pointType value) := by
  cases decoded : request.decode with
  | ok result =>
      obtain ⟨words, orders, means, _⟩ := decode_eq_ok_iff.mp decoded
      exact ⟨result.1, words, orders, result.2, means, shows_of_decode tree verbose decoded,
        means.decode_eq_ok_iff.mp decoded⟩
  | error fault =>
      rw [perform_action, decoded] at succeeds
      exact absurd succeeds (exitCode_conclude_error verbose fault _)

/-- How the run of a request ends. -/
structure DecodesWindow (request : DecodeRequest) (outcome : Outcome) : Prop where
  /-- The value of a window is printed. -/
  window {pointType : PointType} {words : List Nat} {orders : Orders} {window : List Nat}
    {value : Cell} (means : request.Means pointType words orders)
    (placed : WindowAt words request.offset (pointType.registerLength request.length) window)
    (holds : ValueOf orders pointType window value) : request.Shows outcome pointType value
  /-- A stray value is printed too. -/
  stray {pointType : PointType} {words : List Nat} {orders : Orders} {value : Cell}
    (means : request.Means pointType words orders)
    (stray : StrayValue orders words request.offset request.length pointType value) :
    request.Shows outcome pointType value
  exitCode_eq_zero_iff : outcome.exitCode = 0 ↔ request.HasWindow ∨ request.Strays
  keepsToWindow_iff : request.KeepsToWindow outcome ↔ ¬request.Strays

theorem exitCode_perform_eq_zero_iff (tree : FileTree) (verbose : Bool)
    (request : DecodeRequest) :
    (perform tree verbose request.action).exitCode = 0 ↔ request.HasWindow ∨ request.Strays := by
  constructor
  · intro succeeds
    obtain ⟨pointType, words, orders, value, means, -, ⟨window, placed, -⟩ | stray⟩ :=
      shows_of_exitCode succeeds
    · exact .inl ⟨pointType, words, orders, window, means, placed⟩
    · exact .inr ⟨pointType, words, orders, value, means, stray⟩
  · rintro (⟨pointType, words, orders, window, means, placed⟩ |
      ⟨pointType, words, orders, value, means, stray⟩)
    · obtain ⟨value, -, holds⟩ := placed.exists_decodeValue (readWords_lt means.words) orders
      have decoded := means.decode_eq_ok_iff.mpr (.inl ⟨window, placed, holds⟩)
      exact (shows_of_decode tree verbose decoded).exitCode
    · exact (shows_of_decode tree verbose (means.decode_eq_ok_iff.mpr (.inr stray))).exitCode

theorem keepsToWindow_perform_iff (tree : FileTree) (verbose : Bool) (request : DecodeRequest) :
    request.KeepsToWindow (perform tree verbose request.action) ↔ ¬request.Strays := by
  constructor
  · intro keeps strays
    exact keeps.fails strays.not_hasWindow
      ((exitCode_perform_eq_zero_iff tree verbose request).mpr (.inr strays))
  · intro straight
    constructor
    · intro succeeds
      obtain ⟨pointType, words, orders, value, means, shown, ⟨window, placed, holds⟩ | stray⟩ :=
        shows_of_exitCode succeeds
      · exact ⟨pointType, words, orders, window, value, means, placed, holds, shown⟩
      · exact absurd ⟨pointType, words, orders, value, means, stray⟩ straight
    · intro none succeeds
      obtain window | strays := (exitCode_perform_eq_zero_iff tree verbose request).mp succeeds
      · exact none window
      · exact straight strays

/-- The value of the window that a request asks for is printed, and without a window the run fails,
unless the length is below zero: then the run prints a stray value for every array, and for every
string whose offset and end pass for a window. -/
theorem run_decodesWindow (tree : FileTree) {environment : Environment} {typed : List String}
    {verbose : Bool} {request : DecodeRequest}
    (reads : Command.read environment typed = .run request.action verbose) :
    ∃ outcome, run tree environment typed = .outcome outcome ∧ request.DecodesWindow outcome := by
  refine ⟨perform tree verbose request.action, by rw [run, reads], ?_⟩
  constructor
  case window =>
    intro pointType words orders window value means placed holds
    exact shows_of_decode tree verbose
      (means.decode_eq_ok_iff.mpr (.inl ⟨window, placed, holds⟩))
  case stray =>
    intro pointType words orders value means stray
    exact shows_of_decode tree verbose (means.decode_eq_ok_iff.mpr (.inr stray))
  case exitCode_eq_zero_iff => exact exitCode_perform_eq_zero_iff tree verbose request
  case keepsToWindow_iff => exact keepsToWindow_perform_iff tree verbose request

/-- A request for the text of two words. -/
def twoWords (length : Int) : DecodeRequest :=
  ⟨"string", ["0x4142", "0x4344"], 0, some length, "ABCD", "BADC", false⟩

/-- The arguments of such a request. -/
def twoWordsTyped (length : String) : List String :=
  ["decode", "string", "0x4142", "0x4344", "--length", length]

theorem run_twoWords :
    Command.read [] (twoWordsTyped "2") = .run (twoWords 2).action false ∧
      ∃ outcome, run ⟨[], []⟩ [] (twoWordsTyped "2") = .outcome outcome ∧
        (twoWords 2).DecodesWindow outcome := by
  have reads : Command.read [] (twoWordsTyped "2") = .run (twoWords 2).action false := by
    decide +kernel
  exact ⟨reads, run_decodesWindow ⟨[], []⟩ reads⟩

/-- Of two words, the string of length -1 is printed as the text of the first. -/
theorem twoWords_strays :
    Command.read [] (twoWordsTyped "-1") = .run (twoWords (-1)).action false ∧
      ∃ outcome, run ⟨[], []⟩ [] (twoWordsTyped "-1") = .outcome outcome ∧
        outcome.exitCode = 0 ∧ outcome.stdout = "BA\n" ∧ ¬(twoWords (-1)).HasWindow ∧
        ¬(twoWords (-1)).KeepsToWindow outcome := by
  have type : PointType.parse (.text (twoWords (-1)).typeName) = .ok ⟨.string, false⟩ :=
    Outcome.eq_ok_of_toOption (by decide +kernel)
  have windowless : ¬(twoWords (-1)).HasWindow := by
    rintro ⟨pointType, words, orders, window, means, placed⟩
    obtain rfl := Except.ok.inj (type.symm.trans means.pointType)
    exact absurd placed.positive (by decide)
  refine ⟨by decide +kernel, ⟨0, "BA\n", "", false, none, none⟩, by decide +kernel, rfl, rfl,
    windowless, ?_⟩
  intro keeps
  exact keeps.fails windowless rfl

end DecodeRequest

end PointTable.CommandLine
