import ReportQuery.Xml.Markup

/-!
# Attributes of a tag

A tag holds attributes after its name: each is a name, an equals sign and a
value between quotes, with white space allowed around any of them. No name
stands twice. Nothing in this library depends on a value, so the attributes are
only checked.
-/

namespace ReportQuery.Xml

/-- Whether a character after the first belongs to the name of an attribute. -/
def inAttributeName (c : Char) : Bool :=
  c != '=' && !isSpace c

/-- What follows the equals sign after a name, in a tag of `size` bytes. -/
def afterEquals (size : Nat) (cs : List Char) :
    Except AttributeFault (List Char) :=
  match trimStart cs with
  | '=' :: rest => .ok rest
  | rest => .error (.expectedEquals (size - byteCount rest))

/-- What follows the value after an equals sign, in a tag of `size` bytes. -/
def afterValue (size : Nat) (cs : List Char) :
    Except AttributeFault (List Char) :=
  match trimStart cs with
  | [] => .error (.expectedValue size)
  | quote :: value =>
    if quote = '"' ∨ quote = '\'' then
      match value.dropWhile (· != quote) with
      | [] => .error (.unclosedValue size quote)
      | _ :: rest => .ok rest
    else .error (.unquotedValue (size - byteCount (quote :: value)))

theorem length_trimStart_le (cs : List Char) :
    (trimStart cs).length ≤ cs.length :=
  (List.dropWhile_suffix isSpace).length_le

theorem length_afterEquals_lt {size : Nat} {cs rest : List Char}
    (h : afterEquals size cs = .ok rest) : rest.length < cs.length := by
  have hle := length_trimStart_le cs
  unfold afterEquals at h
  split at h
  next heq =>
    cases h
    simp [heq] at hle
    omega
  next => cases h

theorem length_afterValue_lt {size : Nat} {cs rest : List Char}
    (h : afterValue size cs = .ok rest) : rest.length < cs.length := by
  have hle := length_trimStart_le cs
  unfold afterValue at h
  split at h
  next => cases h
  next quote value heq =>
    split at h
    next =>
      split at h
      next => cases h
      next c after hafter =>
        cases h
        have hle' : (value.dropWhile (· != quote)).length ≤ value.length :=
          (List.dropWhile_suffix _).length_le
        simp [heq] at hle
        simp [hafter] at hle'
        omega
    next => cases h

/-- What is wrong with the attributes in the last part of a tag of `size`
bytes, after others whose names and places are given. -/
def attributeFaultAfter? (size : Nat) (before : List (List Char × Nat)) :
    List Char → Option AttributeFault
  | [] => none
  | c :: cs =>
    if isSpace c then attributeFaultAfter? size before cs
    else
      let name := c :: cs.takeWhile inAttributeName
      let place := size - byteCount (c :: cs)
      match _hequals : afterEquals size (cs.dropWhile inAttributeName) with
      | .error fault => some fault
      | .ok value =>
        match before.lookup name with
        | some earlier => some (.repeated place earlier)
        | none =>
          match _hvalue : afterValue size value with
          | .error fault => some fault
          | .ok rest => attributeFaultAfter? size ((name, place) :: before) rest
termination_by cs => cs.length
decreasing_by
  · simp
  · have hname : (cs.dropWhile inAttributeName).length ≤ cs.length :=
      (List.dropWhile_suffix _).length_le
    have hequals := length_afterEquals_lt _hequals
    have hvalue := length_afterValue_lt _hvalue
    simp
    omega

/-- What is wrong with the attributes of a tag. -/
def Tag.attributeFault? (tag : Tag) : Option AttributeFault :=
  attributeFaultAfter? (tag.name.utf8ByteSize + byteCount tag.attributes) []
    tag.attributes

end ReportQuery.Xml
