namespace BuildVersion.Template

inductive Kind
  | text
  | object
  | kind
  | tuple
  | table
  | nothing
  | integer
  | truth
  | function
  | boundOperator
  | method
  | operator
  | attribute
  | slot
  | kindMethod
  | free
  deriving DecidableEq, Repr

/-- How a member is used. -/
inductive Form
  /-- It is called on a value. -/
  | method
  /-- It is called on a value and stands for an operator. -/
  | operator
  /-- It is called on a kind. -/
  | kindMethod
  /-- It is called on nothing. -/
  | free
  /-- It makes values of its kind. -/
  | maker
  /-- It is computed from a value. -/
  | attribute
  /-- It is stored in a value. -/
  | slot
  /-- It is its description. -/
  | constant
  deriving DecidableEq, Repr

structure Member where
  form : Form
  name : String
  signature : Option String
  description : Option String
  deriving DecidableEq, Repr

namespace Kind

def textMembers : List Member :=
  [⟨.maker, "__new__", (some "($type, *args, **kwargs)"),
       (some "Create and return a new object.  See help(type) for accurate signature.")⟩,
   ⟨.operator, "__repr__", (some "($self, /)"), (some "Return repr(self).")⟩,
   ⟨.operator, "__hash__", (some "($self, /)"), (some "Return hash(self).")⟩,
   ⟨.operator, "__str__", (some "($self, /)"), (some "Return str(self).")⟩,
   ⟨.operator, "__getattribute__", (some "($self, name, /)"),
       (some "Return getattr(self, name).")⟩,
   ⟨.operator, "__lt__", (some "($self, value, /)"), (some "Return self<value.")⟩,
   ⟨.operator, "__le__", (some "($self, value, /)"), (some "Return self<=value.")⟩,
   ⟨.operator, "__eq__", (some "($self, value, /)"), (some "Return self==value.")⟩,
   ⟨.operator, "__ne__", (some "($self, value, /)"), (some "Return self!=value.")⟩,
   ⟨.operator, "__gt__", (some "($self, value, /)"), (some "Return self>value.")⟩,
   ⟨.operator, "__ge__", (some "($self, value, /)"), (some "Return self>=value.")⟩,
   ⟨.operator, "__iter__", (some "($self, /)"), (some "Implement iter(self).")⟩,
   ⟨.operator, "__mod__", (some "($self, value, /)"), (some "Return self%value.")⟩,
   ⟨.operator, "__rmod__", (some "($self, value, /)"), (some "Return value%self.")⟩,
   ⟨.operator, "__len__", (some "($self, /)"), (some "Return len(self).")⟩,
   ⟨.operator, "__getitem__", (some "($self, key, /)"), (some "Return self[key].")⟩,
   ⟨.operator, "__add__", (some "($self, value, /)"), (some "Return self+value.")⟩,
   ⟨.operator, "__mul__", (some "($self, value, /)"), (some "Return self*value.")⟩,
   ⟨.operator, "__rmul__", (some "($self, value, /)"), (some "Return value*self.")⟩,
   ⟨.operator, "__contains__", (some "($self, key, /)"), (some "Return key in self.")⟩,
   ⟨.method, "encode", (some "($self, /, encoding='utf-8', errors='strict')"),
       (some ("Encode the string using the codec registered for encoding.\n" ++
         "\n  encoding\n    The encoding in which to encode the string.\n" ++
         "  errors\n    The error handling scheme to use for encoding errors.\n" ++
         "    The default is 'strict' meaning that encoding errors raise a\n" ++
         "    UnicodeEncodeError.  Other possible values are 'ignore', 'replace' and\n" ++
         "    'xmlcharrefreplace' as well as any other name registered with\n" ++
         "    codecs.register_error that can handle UnicodeEncodeErrors."))⟩,
   ⟨.method, "replace", (some "($self, old, new, count=-1, /)"),
       (some ("Return a copy with all occurrences of substring old replaced by new.\n" ++
         "\n  count\n    Maximum number of occurrences to replace.\n" ++
         "    -1 (the default value) means replace all occurrences.\n" ++
         "\nIf the optional argument count is given, only the first count occurrences are\n" ++
         "replaced."))⟩,
   ⟨.method, "split", (some "($self, /, sep=None, maxsplit=-1)"),
       (some ("Return a list of the substrings in the string, using sep as the separator string" ++
         ".\n\n  sep\n    The separator used to split the string.\n" ++
         "\n    When set to None (the default value), will split on any whitespace\n" ++
         "    character (including \\n \\r \\t \\f and spaces) and will discard\n" ++
         "    empty strings from the result.\n  maxsplit\n" ++
         "    Maximum number of splits.\n    -1 (the default value) means no limit.\n" ++
         "\nSplitting starts at the front of the string and works to the end.\n" ++
         "\nNote, str.split() is mainly useful for data that has been intentionally\n" ++
         "delimited.  With natural text that includes punctuation, consider using\n" ++
         "the regular expression module."))⟩,
   ⟨.method, "rsplit", (some "($self, /, sep=None, maxsplit=-1)"),
       (some ("Return a list of the substrings in the string, using sep as the separator string" ++
         ".\n\n  sep\n    The separator used to split the string.\n" ++
         "\n    When set to None (the default value), will split on any whitespace\n" ++
         "    character (including \\n \\r \\t \\f and spaces) and will discard\n" ++
         "    empty strings from the result.\n  maxsplit\n" ++
         "    Maximum number of splits.\n    -1 (the default value) means no limit.\n" ++
         "\nSplitting starts at the end of the string and works to the front."))⟩,
   ⟨.method, "join", (some "($self, iterable, /)"),
       (some ("Concatenate any number of strings.\n\nThe string whose method is called is inser" ++
         "ted in between each given string.\nThe result is returned as a new string.\n" ++
         "\nExample: '.'.join(['ab', 'pq', 'rs']) -> 'ab.pq.rs'"))⟩,
   ⟨.method, "capitalize", (some "($self, /)"),
       (some ("Return a capitalized version of the string.\n" ++
         "\nMore specifically, make the first character have upper case and the rest lower" ++
         "\ncase."))⟩,
   ⟨.method, "casefold", (some "($self, /)"),
       (some "Return a version of the string suitable for caseless comparisons.")⟩,
   ⟨.method, "title", (some "($self, /)"),
       (some ("Return a version of the string where each word is titlecased.\n" ++
         "\nMore specifically, words start with uppercased characters and all remaining\n" ++
         "cased characters have lower case."))⟩,
   ⟨.method, "center", (some "($self, width, fillchar=' ', /)"),
       (some ("Return a centered string of length width.\n" ++
         "\nPadding is done using the specified fill character (default is a space)."))⟩,
   ⟨.method, "count", none,
       (some ("S.count(sub[, start[, end]]) -> int\n\nReturn the number of non-overlapping occu" ++
         "rrences of substring sub in\nstring S[start:end].  Optional arguments start and " ++
         "end are\ninterpreted as in slice notation."))⟩,
   ⟨.method, "expandtabs", (some "($self, /, tabsize=8)"),
       (some ("Return a copy where all tab characters are expanded using spaces.\n" ++
         "\nIf tabsize is not given, a tab size of 8 characters is assumed."))⟩,
   ⟨.method, "find", none,
       (some ("S.find(sub[, start[, end]]) -> int\n\nReturn the lowest index in S where substri" ++
         "ng sub is found,\nsuch that sub is contained within S[start:end].  Optional\n" ++
         "arguments start and end are interpreted as in slice notation.\n" ++
         "\nReturn -1 on failure."))⟩,
   ⟨.method, "partition", (some "($self, sep, /)"),
       (some ("Partition the string into three parts using the given separator.\n" ++
         "\nThis will search for the separator in the string.  If the separator is found,\n" ++
         "returns a 3-tuple containing the part before the separator, the separator\n" ++
         "itself, and the part after it.\n\nIf the separator is not found, returns a 3-tup" ++
         "le containing the original string\nand two empty strings."))⟩,
   ⟨.method, "index", none,
       (some ("S.index(sub[, start[, end]]) -> int\n\nReturn the lowest index in S where substr" ++
         "ing sub is found,\nsuch that sub is contained within S[start:end].  Optional\n" ++
         "arguments start and end are interpreted as in slice notation.\n" ++
         "\nRaises ValueError when the substring is not found."))⟩,
   ⟨.method, "ljust", (some "($self, width, fillchar=' ', /)"),
       (some ("Return a left-justified string of length width.\n" ++
         "\nPadding is done using the specified fill character (default is a space)."))⟩,
   ⟨.method, "lower", (some "($self, /)"),
       (some "Return a copy of the string converted to lowercase.")⟩,
   ⟨.method, "lstrip", (some "($self, chars=None, /)"),
       (some ("Return a copy of the string with leading whitespace removed.\n" ++
         "\nIf chars is given and not None, remove characters in chars instead."))⟩,
   ⟨.method, "rfind", none,
       (some ("S.rfind(sub[, start[, end]]) -> int\n\nReturn the highest index in S where subst" ++
         "ring sub is found,\nsuch that sub is contained within S[start:end].  Optional\n" ++
         "arguments start and end are interpreted as in slice notation.\n" ++
         "\nReturn -1 on failure."))⟩,
   ⟨.method, "rindex", none,
       (some ("S.rindex(sub[, start[, end]]) -> int\n\nReturn the highest index in S where subs" ++
         "tring sub is found,\nsuch that sub is contained within S[start:end].  Optional\n" ++
         "arguments start and end are interpreted as in slice notation.\n" ++
         "\nRaises ValueError when the substring is not found."))⟩,
   ⟨.method, "rjust", (some "($self, width, fillchar=' ', /)"),
       (some ("Return a right-justified string of length width.\n" ++
         "\nPadding is done using the specified fill character (default is a space)."))⟩,
   ⟨.method, "rstrip", (some "($self, chars=None, /)"),
       (some ("Return a copy of the string with trailing whitespace removed.\n" ++
         "\nIf chars is given and not None, remove characters in chars instead."))⟩,
   ⟨.method, "rpartition", (some "($self, sep, /)"),
       (some ("Partition the string into three parts using the given separator.\n" ++
         "\nThis will search for the separator in the string, starting at the end. If\n" ++
         "the separator is found, returns a 3-tuple containing the part before the\n" ++
         "separator, the separator itself, and the part after it.\n" ++
         "\nIf the separator is not found, returns a 3-tuple containing two empty strings\n" ++
         "and the original string."))⟩,
   ⟨.method, "splitlines", (some "($self, /, keepends=False)"),
       (some ("Return a list of the lines in the string, breaking at line boundaries.\n" ++
         "\nLine breaks are not included in the resulting list unless keepends is given an" ++
         "d\ntrue."))⟩,
   ⟨.method, "strip", (some "($self, chars=None, /)"),
       (some ("Return a copy of the string with leading and trailing whitespace removed.\n" ++
         "\nIf chars is given and not None, remove characters in chars instead."))⟩,
   ⟨.method, "swapcase", (some "($self, /)"),
       (some "Convert uppercase characters to lowercase and lowercase characters to uppercase.")⟩,
   ⟨.method, "translate", (some "($self, table, /)"),
       (some ("Replace each character in the string using the given translation table.\n" ++
         "\n  table\n    Translation table, which must be a mapping of Unicode ordinals to" ++
         "\n    Unicode ordinals, strings, or None.\n" ++
         "\nThe table must implement lookup/indexing via __getitem__, for instance a\n" ++
         "dictionary or list.  If this operation raises LookupError, the character is\n" ++
         "left untouched.  Characters mapped to None are deleted."))⟩,
   ⟨.method, "upper", (some "($self, /)"),
       (some "Return a copy of the string converted to uppercase.")⟩,
   ⟨.method, "startswith", none,
       (some ("S.startswith(prefix[, start[, end]]) -> bool\n" ++
         "\nReturn True if S starts with the specified prefix, False otherwise.\n" ++
         "With optional start, test S beginning at that position.\n" ++
         "With optional end, stop comparing S at that position.\n" ++
         "prefix can also be a tuple of strings to try."))⟩,
   ⟨.method, "endswith", none,
       (some ("S.endswith(suffix[, start[, end]]) -> bool\n" ++
         "\nReturn True if S ends with the specified suffix, False otherwise.\n" ++
         "With optional start, test S beginning at that position.\n" ++
         "With optional end, stop comparing S at that position.\n" ++
         "suffix can also be a tuple of strings to try."))⟩,
   ⟨.method, "removeprefix", (some "($self, prefix, /)"),
       (some ("Return a str with the given prefix string removed if present.\n" ++
         "\nIf the string starts with the prefix string, return string[len(prefix):].\n" ++
         "Otherwise, return a copy of the original string."))⟩,
   ⟨.method, "removesuffix", (some "($self, suffix, /)"),
       (some ("Return a str with the given suffix string removed if present.\n" ++
         "\nIf the string ends with the suffix string and that suffix is not empty,\n" ++
         "return string[:-len(suffix)]. Otherwise, return a copy of the original\n" ++
         "string."))⟩,
   ⟨.method, "isascii", (some "($self, /)"),
       (some ("Return True if all characters in the string are ASCII, False otherwise.\n" ++
         "\nASCII characters have code points in the range U+0000-U+007F.\n" ++
         "Empty string is ASCII too."))⟩,
   ⟨.method, "islower", (some "($self, /)"),
       (some ("Return True if the string is a lowercase string, False otherwise.\n" ++
         "\nA string is lowercase if all cased characters in the string are lowercase and\n" ++
         "there is at least one cased character in the string."))⟩,
   ⟨.method, "isupper", (some "($self, /)"),
       (some ("Return True if the string is an uppercase string, False otherwise.\n" ++
         "\nA string is uppercase if all cased characters in the string are uppercase and\n" ++
         "there is at least one cased character in the string."))⟩,
   ⟨.method, "istitle", (some "($self, /)"),
       (some ("Return True if the string is a title-cased string, False otherwise.\n" ++
         "\nIn a title-cased string, upper- and title-case characters may only\n" ++
         "follow uncased characters and lowercase characters only cased ones."))⟩,
   ⟨.method, "isspace", (some "($self, /)"),
       (some ("Return True if the string is a whitespace string, False otherwise.\n" ++
         "\nA string is whitespace if all characters in the string are whitespace and ther" ++
         "e\nis at least one character in the string."))⟩,
   ⟨.method, "isdecimal", (some "($self, /)"),
       (some ("Return True if the string is a decimal string, False otherwise.\n" ++
         "\nA string is a decimal string if all characters in the string are decimal and\n" ++
         "there is at least one character in the string."))⟩,
   ⟨.method, "isdigit", (some "($self, /)"),
       (some ("Return True if the string is a digit string, False otherwise.\n" ++
         "\nA string is a digit string if all characters in the string are digits and ther" ++
         "e\nis at least one character in the string."))⟩,
   ⟨.method, "isnumeric", (some "($self, /)"),
       (some ("Return True if the string is a numeric string, False otherwise.\n" ++
         "\nA string is numeric if all characters in the string are numeric and there is a" ++
         "t\nleast one character in the string."))⟩,
   ⟨.method, "isalpha", (some "($self, /)"),
       (some ("Return True if the string is an alphabetic string, False otherwise.\n" ++
         "\nA string is alphabetic if all characters in the string are alphabetic and ther" ++
         "e\nis at least one character in the string."))⟩,
   ⟨.method, "isalnum", (some "($self, /)"),
       (some ("Return True if the string is an alpha-numeric string, False otherwise.\n" ++
         "\nA string is alpha-numeric if all characters in the string are alpha-numeric an" ++
         "d\nthere is at least one character in the string."))⟩,
   ⟨.method, "isidentifier", (some "($self, /)"),
       (some ("Return True if the string is a valid Python identifier, False otherwise.\n" ++
         "\nCall keyword.iskeyword(s) to test whether string s is a reserved identifier,\n" ++
         "such as \"def\" or \"class\"."))⟩,
   ⟨.method, "isprintable", (some "($self, /)"),
       (some ("Return True if the string is printable, False otherwise.\n" ++
         "\nA string is printable if all of its characters are considered printable in\n" ++
         "repr() or if it is empty."))⟩,
   ⟨.method, "zfill", (some "($self, width, /)"),
       (some ("Pad a numeric string with zeros on the left, to fill a field of the given width." ++
         "\n\nThe string is never truncated."))⟩,
   ⟨.method, "format", none,
       (some ("S.format(*args, **kwargs) -> str\n\nReturn a formatted version of S, using subst" ++
         "itutions from args and kwargs.\nThe substitutions are identified by braces ('\x7b" ++
         "' and '\x7d')."))⟩,
   ⟨.method, "format_map", none,
       (some ("S.format_map(mapping) -> str\n\nReturn a formatted version of S, using substitut" ++
         "ions from mapping.\nThe substitutions are identified by braces ('\x7b' and '\x7d" ++
         "')."))⟩,
   ⟨.method, "__format__", (some "($self, format_spec, /)"),
       (some "Return a formatted version of the string as described by format_spec.")⟩,
   ⟨.free, "maketrans", (some "(x, y=<unrepresentable>, z=<unrepresentable>, /)"),
       (some ("Return a translation table usable for str.translate().\n" ++
         "\nIf there is only one argument, it must be a dictionary mapping Unicode\n" ++
         "ordinals (integers) or characters to Unicode ordinals, strings or None.\n" ++
         "Character keys will be then converted to ordinals.\n" ++
         "If there are two arguments, they must be strings of equal length, and\n" ++
         "in the resulting dictionary, each character in x will be mapped to the\n" ++
         "character at the same position in y. If there is a third argument, it\n" ++
         "must be a string, whose characters will be mapped to None in the result."))⟩,
   ⟨.method, "__sizeof__", (some "($self, /)"),
       (some "Return the size of the string in memory, in bytes.")⟩,
   ⟨.method, "__getnewargs__", none, none⟩,
   ⟨.constant, "__doc__", none,
       (some ("str(object='') -> str\nstr(bytes_or_buffer[, encoding[, errors]]) -> str\n" ++
         "\nCreate a new string object from the given object. If encoding or\n" ++
         "errors is specified, then the object must expose a data buffer\n" ++
         "that will be decoded using the given encoding and error handler.\n" ++
         "Otherwise, returns the result of object.__str__() (if defined)\n" ++
         "or repr(object).\nencoding defaults to sys.getdefaultencoding().\n" ++
         "errors defaults to 'strict'."))⟩]

def objectMembers : List Member :=
  [⟨.maker, "__new__", (some "($type, *args, **kwargs)"),
       (some "Create and return a new object.  See help(type) for accurate signature.")⟩,
   ⟨.operator, "__repr__", (some "($self, /)"), (some "Return repr(self).")⟩,
   ⟨.operator, "__hash__", (some "($self, /)"), (some "Return hash(self).")⟩,
   ⟨.operator, "__str__", (some "($self, /)"), (some "Return str(self).")⟩,
   ⟨.operator, "__getattribute__", (some "($self, name, /)"),
       (some "Return getattr(self, name).")⟩,
   ⟨.operator, "__setattr__", (some "($self, name, value, /)"),
       (some "Implement setattr(self, name, value).")⟩,
   ⟨.operator, "__delattr__", (some "($self, name, /)"),
       (some "Implement delattr(self, name).")⟩,
   ⟨.operator, "__lt__", (some "($self, value, /)"), (some "Return self<value.")⟩,
   ⟨.operator, "__le__", (some "($self, value, /)"), (some "Return self<=value.")⟩,
   ⟨.operator, "__eq__", (some "($self, value, /)"), (some "Return self==value.")⟩,
   ⟨.operator, "__ne__", (some "($self, value, /)"), (some "Return self!=value.")⟩,
   ⟨.operator, "__gt__", (some "($self, value, /)"), (some "Return self>value.")⟩,
   ⟨.operator, "__ge__", (some "($self, value, /)"), (some "Return self>=value.")⟩,
   ⟨.operator, "__init__", (some "($self, /, *args, **kwargs)"),
       (some "Initialize self.  See help(type(self)) for accurate signature.")⟩,
   ⟨.method, "__reduce_ex__", (some "($self, protocol, /)"), (some "Helper for pickle.")⟩,
   ⟨.method, "__reduce__", (some "($self, /)"), (some "Helper for pickle.")⟩,
   ⟨.method, "__getstate__", (some "($self, /)"), (some "Helper for pickle.")⟩,
   ⟨.kindMethod, "__subclasshook__", none,
       (some ("Abstract classes can override this to customize issubclass().\n" ++
         "\nThis is invoked early on by abc.ABCMeta.__subclasscheck__().\n" ++
         "It should return True, False or NotImplemented.  If it returns\n" ++
         "NotImplemented, the normal algorithm is used.  Otherwise, it\n" ++
         "overrides the normal algorithm (and the outcome is cached).\n"))⟩,
   ⟨.kindMethod, "__init_subclass__", none,
       (some ("This method is called when a class is subclassed.\n" ++
         "\nThe default implementation does nothing. It may be\n" ++
         "overridden to extend subclasses.\n"))⟩,
   ⟨.method, "__format__", (some "($self, format_spec, /)"),
       (some "Default object formatter.")⟩,
   ⟨.method, "__sizeof__", (some "($self, /)"), (some "Size of object in memory, in bytes.")⟩,
   ⟨.method, "__dir__", (some "($self, /)"), (some "Default dir() implementation.")⟩,
   ⟨.attribute, "__class__", none, (some "the object's class")⟩,
   ⟨.constant, "__doc__", none,
       (some ("The base class of the class hierarchy.\n\n" ++
         "When called, it accepts no arguments and returns a new featureless\n" ++
         "instance that has no instance attributes and cannot be given any.\n"))⟩]

def kindMembers : List Member :=
  [⟨.maker, "__new__", (some "($type, *args, **kwargs)"),
       (some "Create and return a new object.  See help(type) for accurate signature.")⟩,
   ⟨.operator, "__repr__", (some "($self, /)"), (some "Return repr(self).")⟩,
   ⟨.operator, "__call__", (some "($self, /, *args, **kwargs)"),
       (some "Call self as a function.")⟩,
   ⟨.operator, "__getattribute__", (some "($self, name, /)"),
       (some "Return getattr(self, name).")⟩,
   ⟨.operator, "__setattr__", (some "($self, name, value, /)"),
       (some "Implement setattr(self, name, value).")⟩,
   ⟨.operator, "__delattr__", (some "($self, name, /)"),
       (some "Implement delattr(self, name).")⟩,
   ⟨.operator, "__init__", (some "($self, /, *args, **kwargs)"),
       (some "Initialize self.  See help(type(self)) for accurate signature.")⟩,
   ⟨.operator, "__or__", (some "($self, value, /)"), (some "Return self|value.")⟩,
   ⟨.operator, "__ror__", (some "($self, value, /)"), (some "Return value|self.")⟩,
   ⟨.method, "mro", (some "($self, /)"), (some "Return a type's method resolution order.")⟩,
   ⟨.method, "__subclasses__", (some "($self, /)"),
       (some "Return a list of immediate subclasses.")⟩,
   ⟨.kindMethod, "__prepare__", none,
       (some "__prepare__() -> dict\nused to create the namespace for the class statement")⟩,
   ⟨.method, "__instancecheck__", (some "($self, instance, /)"),
       (some "Check if an object is an instance.")⟩,
   ⟨.method, "__subclasscheck__", (some "($self, subclass, /)"),
       (some "Check if a class is a subclass.")⟩,
   ⟨.method, "__dir__", (some "($self, /)"),
       (some "Specialized __dir__ implementation for types.")⟩,
   ⟨.method, "__sizeof__", (some "($self, /)"),
       (some "Return memory consumption of the type object.")⟩,
   ⟨.slot, "__basicsize__", none, none⟩,
   ⟨.slot, "__itemsize__", none, none⟩,
   ⟨.slot, "__flags__", none, none⟩,
   ⟨.slot, "__weakrefoffset__", none, none⟩,
   ⟨.slot, "__base__", none, none⟩,
   ⟨.slot, "__dictoffset__", none, none⟩,
   ⟨.slot, "__mro__", none, none⟩,
   ⟨.attribute, "__name__", none, none⟩,
   ⟨.attribute, "__qualname__", none, none⟩,
   ⟨.attribute, "__bases__", none, none⟩,
   ⟨.attribute, "__module__", none, none⟩,
   ⟨.attribute, "__abstractmethods__", none, none⟩,
   ⟨.attribute, "__dict__", none, none⟩,
   ⟨.attribute, "__doc__", none, none⟩,
   ⟨.attribute, "__text_signature__", none, none⟩,
   ⟨.attribute, "__annotations__", none, none⟩]

def tupleMembers : List Member :=
  [⟨.maker, "__new__", (some "($type, *args, **kwargs)"),
       (some "Create and return a new object.  See help(type) for accurate signature.")⟩,
   ⟨.operator, "__repr__", (some "($self, /)"), (some "Return repr(self).")⟩,
   ⟨.operator, "__hash__", (some "($self, /)"), (some "Return hash(self).")⟩,
   ⟨.operator, "__getattribute__", (some "($self, name, /)"),
       (some "Return getattr(self, name).")⟩,
   ⟨.operator, "__lt__", (some "($self, value, /)"), (some "Return self<value.")⟩,
   ⟨.operator, "__le__", (some "($self, value, /)"), (some "Return self<=value.")⟩,
   ⟨.operator, "__eq__", (some "($self, value, /)"), (some "Return self==value.")⟩,
   ⟨.operator, "__ne__", (some "($self, value, /)"), (some "Return self!=value.")⟩,
   ⟨.operator, "__gt__", (some "($self, value, /)"), (some "Return self>value.")⟩,
   ⟨.operator, "__ge__", (some "($self, value, /)"), (some "Return self>=value.")⟩,
   ⟨.operator, "__iter__", (some "($self, /)"), (some "Implement iter(self).")⟩,
   ⟨.operator, "__len__", (some "($self, /)"), (some "Return len(self).")⟩,
   ⟨.operator, "__getitem__", (some "($self, key, /)"), (some "Return self[key].")⟩,
   ⟨.operator, "__add__", (some "($self, value, /)"), (some "Return self+value.")⟩,
   ⟨.operator, "__mul__", (some "($self, value, /)"), (some "Return self*value.")⟩,
   ⟨.operator, "__rmul__", (some "($self, value, /)"), (some "Return value*self.")⟩,
   ⟨.operator, "__contains__", (some "($self, key, /)"), (some "Return key in self.")⟩,
   ⟨.method, "__getnewargs__", (some "($self, /)"), none⟩,
   ⟨.method, "index", (some "($self, value, start=0, stop=sys.maxsize, /)"),
       (some "Return first index of value.\n\nRaises ValueError if the value is not present.")⟩,
   ⟨.method, "count", (some "($self, value, /)"),
       (some "Return number of occurrences of value.")⟩,
   ⟨.kindMethod, "__class_getitem__", none, (some "See PEP 585")⟩,
   ⟨.constant, "__doc__", none,
       (some ("Built-in immutable sequence.\n\nIf no argument is given, the constructor returns" ++
         " an empty tuple.\nIf iterable is specified the tuple is initialized from iterabl" ++
         "e's items.\n\nIf the argument is a tuple, the return value is the same object."))⟩]

def tableMembers : List Member :=
  [⟨.maker, "__new__", (some "($type, *args, **kwargs)"),
       (some "Create and return a new object.  See help(type) for accurate signature.")⟩,
   ⟨.operator, "__repr__", (some "($self, /)"), (some "Return repr(self).")⟩,
   ⟨.operator, "__str__", (some "($self, /)"), (some "Return str(self).")⟩,
   ⟨.operator, "__getattribute__", (some "($self, name, /)"),
       (some "Return getattr(self, name).")⟩,
   ⟨.operator, "__lt__", (some "($self, value, /)"), (some "Return self<value.")⟩,
   ⟨.operator, "__le__", (some "($self, value, /)"), (some "Return self<=value.")⟩,
   ⟨.operator, "__eq__", (some "($self, value, /)"), (some "Return self==value.")⟩,
   ⟨.operator, "__ne__", (some "($self, value, /)"), (some "Return self!=value.")⟩,
   ⟨.operator, "__gt__", (some "($self, value, /)"), (some "Return self>value.")⟩,
   ⟨.operator, "__ge__", (some "($self, value, /)"), (some "Return self>=value.")⟩,
   ⟨.operator, "__iter__", (some "($self, /)"), (some "Implement iter(self).")⟩,
   ⟨.operator, "__or__", (some "($self, value, /)"), (some "Return self|value.")⟩,
   ⟨.operator, "__ror__", (some "($self, value, /)"), (some "Return value|self.")⟩,
   ⟨.operator, "__ior__", (some "($self, value, /)"), (some "Return self|=value.")⟩,
   ⟨.operator, "__len__", (some "($self, /)"), (some "Return len(self).")⟩,
   ⟨.operator, "__getitem__", (some "($self, key, /)"), (some "Return self[key].")⟩,
   ⟨.operator, "__contains__", (some "($self, key, /)"), (some "Return key in self.")⟩,
   ⟨.method, "get", none,
       (some "D.get(k[,d]) -> D[k] if k in D, else d.  d defaults to None.")⟩,
   ⟨.method, "keys", none,
       (some "D.keys() -> a set-like object providing a view on D's keys")⟩,
   ⟨.method, "values", none, (some "D.values() -> an object providing a view on D's values")⟩,
   ⟨.method, "items", none,
       (some "D.items() -> a set-like object providing a view on D's items")⟩,
   ⟨.method, "copy", none, (some "D.copy() -> a shallow copy of D")⟩,
   ⟨.kindMethod, "__class_getitem__", none, (some "See PEP 585")⟩,
   ⟨.method, "__reversed__", none, (some "D.__reversed__() -> reverse iterator")⟩,
   ⟨.constant, "__doc__", none, none⟩,
   ⟨.constant, "__hash__", none, none⟩]

def nothingMembers : List Member :=
  [⟨.maker, "__new__", (some "($type, *args, **kwargs)"),
       (some "Create and return a new object.  See help(type) for accurate signature.")⟩,
   ⟨.operator, "__repr__", (some "($self, /)"), (some "Return repr(self).")⟩,
   ⟨.operator, "__bool__", (some "($self, /)"), (some "True if self else False")⟩,
   ⟨.constant, "__doc__", none, none⟩]

def integerMembers : List Member :=
  [⟨.maker, "__new__", (some "($type, *args, **kwargs)"),
       (some "Create and return a new object.  See help(type) for accurate signature.")⟩,
   ⟨.operator, "__repr__", (some "($self, /)"), (some "Return repr(self).")⟩,
   ⟨.operator, "__hash__", (some "($self, /)"), (some "Return hash(self).")⟩,
   ⟨.operator, "__getattribute__", (some "($self, name, /)"),
       (some "Return getattr(self, name).")⟩,
   ⟨.operator, "__lt__", (some "($self, value, /)"), (some "Return self<value.")⟩,
   ⟨.operator, "__le__", (some "($self, value, /)"), (some "Return self<=value.")⟩,
   ⟨.operator, "__eq__", (some "($self, value, /)"), (some "Return self==value.")⟩,
   ⟨.operator, "__ne__", (some "($self, value, /)"), (some "Return self!=value.")⟩,
   ⟨.operator, "__gt__", (some "($self, value, /)"), (some "Return self>value.")⟩,
   ⟨.operator, "__ge__", (some "($self, value, /)"), (some "Return self>=value.")⟩,
   ⟨.operator, "__add__", (some "($self, value, /)"), (some "Return self+value.")⟩,
   ⟨.operator, "__radd__", (some "($self, value, /)"), (some "Return value+self.")⟩,
   ⟨.operator, "__sub__", (some "($self, value, /)"), (some "Return self-value.")⟩,
   ⟨.operator, "__rsub__", (some "($self, value, /)"), (some "Return value-self.")⟩,
   ⟨.operator, "__mul__", (some "($self, value, /)"), (some "Return self*value.")⟩,
   ⟨.operator, "__rmul__", (some "($self, value, /)"), (some "Return value*self.")⟩,
   ⟨.operator, "__mod__", (some "($self, value, /)"), (some "Return self%value.")⟩,
   ⟨.operator, "__rmod__", (some "($self, value, /)"), (some "Return value%self.")⟩,
   ⟨.operator, "__divmod__", (some "($self, value, /)"), (some "Return divmod(self, value).")⟩,
   ⟨.operator, "__rdivmod__", (some "($self, value, /)"),
       (some "Return divmod(value, self).")⟩,
   ⟨.operator, "__pow__", (some "($self, value, mod=None, /)"),
       (some "Return pow(self, value, mod).")⟩,
   ⟨.operator, "__rpow__", (some "($self, value, mod=None, /)"),
       (some "Return pow(value, self, mod).")⟩,
   ⟨.operator, "__neg__", (some "($self, /)"), (some "-self")⟩,
   ⟨.operator, "__pos__", (some "($self, /)"), (some "+self")⟩,
   ⟨.operator, "__abs__", (some "($self, /)"), (some "abs(self)")⟩,
   ⟨.operator, "__bool__", (some "($self, /)"), (some "True if self else False")⟩,
   ⟨.operator, "__invert__", (some "($self, /)"), (some "~self")⟩,
   ⟨.operator, "__lshift__", (some "($self, value, /)"), (some "Return self<<value.")⟩,
   ⟨.operator, "__rlshift__", (some "($self, value, /)"), (some "Return value<<self.")⟩,
   ⟨.operator, "__rshift__", (some "($self, value, /)"), (some "Return self>>value.")⟩,
   ⟨.operator, "__rrshift__", (some "($self, value, /)"), (some "Return value>>self.")⟩,
   ⟨.operator, "__and__", (some "($self, value, /)"), (some "Return self&value.")⟩,
   ⟨.operator, "__rand__", (some "($self, value, /)"), (some "Return value&self.")⟩,
   ⟨.operator, "__xor__", (some "($self, value, /)"), (some "Return self^value.")⟩,
   ⟨.operator, "__rxor__", (some "($self, value, /)"), (some "Return value^self.")⟩,
   ⟨.operator, "__or__", (some "($self, value, /)"), (some "Return self|value.")⟩,
   ⟨.operator, "__ror__", (some "($self, value, /)"), (some "Return value|self.")⟩,
   ⟨.operator, "__int__", (some "($self, /)"), (some "int(self)")⟩,
   ⟨.operator, "__float__", (some "($self, /)"), (some "float(self)")⟩,
   ⟨.operator, "__floordiv__", (some "($self, value, /)"), (some "Return self//value.")⟩,
   ⟨.operator, "__rfloordiv__", (some "($self, value, /)"), (some "Return value//self.")⟩,
   ⟨.operator, "__truediv__", (some "($self, value, /)"), (some "Return self/value.")⟩,
   ⟨.operator, "__rtruediv__", (some "($self, value, /)"), (some "Return value/self.")⟩,
   ⟨.operator, "__index__", (some "($self, /)"),
       (some ("Return self converted to an integer, if self is suitable for use as an index int" ++
         "o a list."))⟩,
   ⟨.method, "conjugate", none, (some "Returns self, the complex conjugate of any int.")⟩,
   ⟨.method, "bit_length", (some "($self, /)"),
       (some ("Number of bits necessary to represent self in binary.\n" ++
         "\n>>> bin(37)\n'0b100101'\n>>> (37).bit_length()\n" ++
         "6"))⟩,
   ⟨.method, "bit_count", (some "($self, /)"),
       (some ("Number of ones in the binary representation of the absolute value of self.\n" ++
         "\nAlso known as the population count.\n\n" ++
         ">>> bin(13)\n'0b1101'\n>>> (13).bit_count()\n" ++
         "3"))⟩,
   ⟨.method, "to_bytes", (some "($self, /, length=1, byteorder='big', *, signed=False)"),
       (some ("Return an array of bytes representing an integer.\n" ++
         "\n  length\n    Length of bytes object to use.  An OverflowError is raised if th" ++
         "e\n    integer is not representable with the given number of bytes.  Default\n" ++
         "    is length 1.\n  byteorder\n    The byte order used to represent the integer." ++
         "  If byteorder is 'big',\n    the most significant byte is at the beginning of t" ++
         "he byte array.  If\n    byteorder is 'little', the most significant byte is at t" ++
         "he end of the\n    byte array.  To request the native byte order of the host sys" ++
         "tem, use\n    `sys.byteorder' as the byte order value.  Default is to use 'big'." ++
         "\n  signed\n    Determines whether two's complement is used to represent the int" ++
         "eger.\n    If signed is False and a negative integer is given, an OverflowError\n" ++
         "    is raised."))⟩,
   ⟨.kindMethod, "from_bytes", (some "($type, /, bytes, byteorder='big', *, signed=False)"),
       (some ("Return the integer represented by the given array of bytes.\n" ++
         "\n  bytes\n    Holds the array of bytes to convert.  The argument must either\n" ++
         "    support the buffer protocol or be an iterable object producing bytes.\n" ++
         "    Bytes and bytearray are examples of built-in objects that support the\n" ++
         "    buffer protocol.\n  byteorder\n    The byte order used to represent the inte" ++
         "ger.  If byteorder is 'big',\n    the most significant byte is at the beginning " ++
         "of the byte array.  If\n    byteorder is 'little', the most significant byte is " ++
         "at the end of the\n    byte array.  To request the native byte order of the host" ++
         " system, use\n    `sys.byteorder' as the byte order value.  Default is to use 'b" ++
         "ig'.\n  signed\n    Indicates whether two's complement is used to represent the " ++
         "integer."))⟩,
   ⟨.method, "as_integer_ratio", (some "($self, /)"),
       (some ("Return integer ratio.\n\nReturn a pair of integers, whose ratio is exactly equal" ++
         " to the original int\nand with a positive denominator.\n" ++
         "\n>>> (10).as_integer_ratio()\n(10, 1)\n>>> (-10).as_integer_ratio()\n" ++
         "(-10, 1)\n>>> (0).as_integer_ratio()\n(0, 1)"))⟩,
   ⟨.method, "__trunc__", none, (some "Truncating an Integral returns itself.")⟩,
   ⟨.method, "__floor__", none, (some "Flooring an Integral returns itself.")⟩,
   ⟨.method, "__ceil__", none, (some "Ceiling of an Integral returns itself.")⟩,
   ⟨.method, "__round__", (some "($self, ndigits=<unrepresentable>, /)"),
       (some ("Rounding an Integral returns itself.\n\nRounding with an ndigits argument also r" ++
         "eturns an integer."))⟩,
   ⟨.method, "__getnewargs__", (some "($self, /)"), none⟩,
   ⟨.method, "__format__", (some "($self, format_spec, /)"), none⟩,
   ⟨.method, "__sizeof__", (some "($self, /)"), (some "Returns size in memory, in bytes.")⟩,
   ⟨.attribute, "real", none, (some "the real part of a complex number")⟩,
   ⟨.attribute, "imag", none, (some "the imaginary part of a complex number")⟩,
   ⟨.attribute, "numerator", none,
       (some "the numerator of a rational number in lowest terms")⟩,
   ⟨.attribute, "denominator", none,
       (some "the denominator of a rational number in lowest terms")⟩,
   ⟨.constant, "__doc__", none,
       (some ("int([x]) -> integer\nint(x, base=10) -> integer\n" ++
         "\nConvert a number or string to an integer, or return 0 if no arguments\n" ++
         "are given.  If x is a number, return x.__int__().  For floating point\n" ++
         "numbers, this truncates towards zero.\n\n" ++
         "If x is not a number or if base is given, then x must be a string,\n" ++
         "bytes, or bytearray instance representing an integer literal in the\n" ++
         "given base.  The literal can be preceded by '+' or '-' and be surrounded\n" ++
         "by whitespace.  The base defaults to 10.  Valid bases are 0 and 2-36.\n" ++
         "Base 0 means to interpret the base from the string as an integer literal.\n" ++
         ">>> int('0b100', base=0)\n4"))⟩]

def truthMembers : List Member :=
  [⟨.maker, "__new__", (some "($type, *args, **kwargs)"),
       (some "Create and return a new object.  See help(type) for accurate signature.")⟩,
   ⟨.operator, "__repr__", (some "($self, /)"), (some "Return repr(self).")⟩,
   ⟨.operator, "__and__", (some "($self, value, /)"), (some "Return self&value.")⟩,
   ⟨.operator, "__rand__", (some "($self, value, /)"), (some "Return value&self.")⟩,
   ⟨.operator, "__xor__", (some "($self, value, /)"), (some "Return self^value.")⟩,
   ⟨.operator, "__rxor__", (some "($self, value, /)"), (some "Return value^self.")⟩,
   ⟨.operator, "__or__", (some "($self, value, /)"), (some "Return self|value.")⟩,
   ⟨.operator, "__ror__", (some "($self, value, /)"), (some "Return value|self.")⟩,
   ⟨.constant, "__doc__", none,
       (some ("bool(x) -> bool\n\nReturns True when the argument x is true, False otherwise.\n" ++
         "The builtins True and False are the only two instances of the class bool.\n" ++
         "The class bool is a subclass of the class int, and cannot be subclassed."))⟩]

def functionMembers : List Member :=
  [⟨.operator, "__repr__", (some "($self, /)"), (some "Return repr(self).")⟩,
   ⟨.operator, "__hash__", (some "($self, /)"), (some "Return hash(self).")⟩,
   ⟨.operator, "__call__", (some "($self, /, *args, **kwargs)"),
       (some "Call self as a function.")⟩,
   ⟨.operator, "__getattribute__", (some "($self, name, /)"),
       (some "Return getattr(self, name).")⟩,
   ⟨.operator, "__lt__", (some "($self, value, /)"), (some "Return self<value.")⟩,
   ⟨.operator, "__le__", (some "($self, value, /)"), (some "Return self<=value.")⟩,
   ⟨.operator, "__eq__", (some "($self, value, /)"), (some "Return self==value.")⟩,
   ⟨.operator, "__ne__", (some "($self, value, /)"), (some "Return self!=value.")⟩,
   ⟨.operator, "__gt__", (some "($self, value, /)"), (some "Return self>value.")⟩,
   ⟨.operator, "__ge__", (some "($self, value, /)"), (some "Return self>=value.")⟩,
   ⟨.method, "__reduce__", none, none⟩,
   ⟨.slot, "__module__", none, none⟩,
   ⟨.attribute, "__doc__", none, none⟩,
   ⟨.attribute, "__name__", none, none⟩,
   ⟨.attribute, "__qualname__", none, none⟩,
   ⟨.attribute, "__self__", none, none⟩,
   ⟨.attribute, "__text_signature__", none, none⟩]

def boundOperatorMembers : List Member :=
  [⟨.operator, "__repr__", (some "($self, /)"), (some "Return repr(self).")⟩,
   ⟨.operator, "__hash__", (some "($self, /)"), (some "Return hash(self).")⟩,
   ⟨.operator, "__call__", (some "($self, /, *args, **kwargs)"),
       (some "Call self as a function.")⟩,
   ⟨.operator, "__getattribute__", (some "($self, name, /)"),
       (some "Return getattr(self, name).")⟩,
   ⟨.operator, "__lt__", (some "($self, value, /)"), (some "Return self<value.")⟩,
   ⟨.operator, "__le__", (some "($self, value, /)"), (some "Return self<=value.")⟩,
   ⟨.operator, "__eq__", (some "($self, value, /)"), (some "Return self==value.")⟩,
   ⟨.operator, "__ne__", (some "($self, value, /)"), (some "Return self!=value.")⟩,
   ⟨.operator, "__gt__", (some "($self, value, /)"), (some "Return self>value.")⟩,
   ⟨.operator, "__ge__", (some "($self, value, /)"), (some "Return self>=value.")⟩,
   ⟨.method, "__reduce__", none, none⟩,
   ⟨.slot, "__self__", none, none⟩,
   ⟨.attribute, "__objclass__", none, none⟩,
   ⟨.attribute, "__name__", none, none⟩,
   ⟨.attribute, "__qualname__", none, none⟩,
   ⟨.attribute, "__doc__", none, none⟩,
   ⟨.attribute, "__text_signature__", none, none⟩]

def methodMembers : List Member :=
  [⟨.operator, "__repr__", (some "($self, /)"), (some "Return repr(self).")⟩,
   ⟨.operator, "__call__", (some "($self, /, *args, **kwargs)"),
       (some "Call self as a function.")⟩,
   ⟨.operator, "__getattribute__", (some "($self, name, /)"),
       (some "Return getattr(self, name).")⟩,
   ⟨.operator, "__get__", (some "($self, instance, owner=None, /)"),
       (some "Return an attribute of instance, which is of type owner.")⟩,
   ⟨.method, "__reduce__", none, none⟩,
   ⟨.slot, "__objclass__", none, none⟩,
   ⟨.slot, "__name__", none, none⟩,
   ⟨.attribute, "__doc__", none, none⟩,
   ⟨.attribute, "__qualname__", none, none⟩,
   ⟨.attribute, "__text_signature__", none, none⟩]

def operatorMembers : List Member :=
  [⟨.operator, "__repr__", (some "($self, /)"), (some "Return repr(self).")⟩,
   ⟨.operator, "__call__", (some "($self, /, *args, **kwargs)"),
       (some "Call self as a function.")⟩,
   ⟨.operator, "__getattribute__", (some "($self, name, /)"),
       (some "Return getattr(self, name).")⟩,
   ⟨.operator, "__get__", (some "($self, instance, owner=None, /)"),
       (some "Return an attribute of instance, which is of type owner.")⟩,
   ⟨.method, "__reduce__", none, none⟩,
   ⟨.slot, "__objclass__", none, none⟩,
   ⟨.slot, "__name__", none, none⟩,
   ⟨.attribute, "__doc__", none, none⟩,
   ⟨.attribute, "__qualname__", none, none⟩,
   ⟨.attribute, "__text_signature__", none, none⟩]

def attributeMembers : List Member :=
  [⟨.operator, "__repr__", (some "($self, /)"), (some "Return repr(self).")⟩,
   ⟨.operator, "__getattribute__", (some "($self, name, /)"),
       (some "Return getattr(self, name).")⟩,
   ⟨.operator, "__get__", (some "($self, instance, owner=None, /)"),
       (some "Return an attribute of instance, which is of type owner.")⟩,
   ⟨.operator, "__set__", (some "($self, instance, value, /)"),
       (some "Set an attribute of instance to value.")⟩,
   ⟨.operator, "__delete__", (some "($self, instance, /)"),
       (some "Delete an attribute of instance.")⟩,
   ⟨.slot, "__objclass__", none, none⟩,
   ⟨.slot, "__name__", none, none⟩,
   ⟨.attribute, "__doc__", none, none⟩,
   ⟨.attribute, "__qualname__", none, none⟩]

def slotMembers : List Member :=
  [⟨.operator, "__repr__", (some "($self, /)"), (some "Return repr(self).")⟩,
   ⟨.operator, "__getattribute__", (some "($self, name, /)"),
       (some "Return getattr(self, name).")⟩,
   ⟨.operator, "__get__", (some "($self, instance, owner=None, /)"),
       (some "Return an attribute of instance, which is of type owner.")⟩,
   ⟨.operator, "__set__", (some "($self, instance, value, /)"),
       (some "Set an attribute of instance to value.")⟩,
   ⟨.operator, "__delete__", (some "($self, instance, /)"),
       (some "Delete an attribute of instance.")⟩,
   ⟨.method, "__reduce__", none, none⟩,
   ⟨.slot, "__objclass__", none, none⟩,
   ⟨.slot, "__name__", none, none⟩,
   ⟨.attribute, "__doc__", none, none⟩,
   ⟨.attribute, "__qualname__", none, none⟩]

def kindMethodMembers : List Member :=
  [⟨.operator, "__repr__", (some "($self, /)"), (some "Return repr(self).")⟩,
   ⟨.operator, "__call__", (some "($self, /, *args, **kwargs)"),
       (some "Call self as a function.")⟩,
   ⟨.operator, "__getattribute__", (some "($self, name, /)"),
       (some "Return getattr(self, name).")⟩,
   ⟨.operator, "__get__", (some "($self, instance, owner=None, /)"),
       (some "Return an attribute of instance, which is of type owner.")⟩,
   ⟨.slot, "__objclass__", none, none⟩,
   ⟨.slot, "__name__", none, none⟩,
   ⟨.attribute, "__doc__", none, none⟩,
   ⟨.attribute, "__qualname__", none, none⟩,
   ⟨.attribute, "__text_signature__", none, none⟩]

def freeMembers : List Member :=
  [⟨.maker, "__new__", (some "($type, *args, **kwargs)"),
       (some "Create and return a new object.  See help(type) for accurate signature.")⟩,
   ⟨.operator, "__repr__", (some "($self, /)"), (some "Return repr(self).")⟩,
   ⟨.operator, "__call__", (some "($self, /, *args, **kwargs)"),
       (some "Call self as a function.")⟩,
   ⟨.operator, "__get__", (some "($self, instance, owner=None, /)"),
       (some "Return an attribute of instance, which is of type owner.")⟩,
   ⟨.operator, "__init__", (some "($self, /, *args, **kwargs)"),
       (some "Initialize self.  See help(type(self)) for accurate signature.")⟩,
   ⟨.slot, "__func__", none, none⟩,
   ⟨.slot, "__wrapped__", none, none⟩,
   ⟨.attribute, "__isabstractmethod__", none, none⟩,
   ⟨.attribute, "__dict__", none, none⟩,
   ⟨.constant, "__doc__", none,
       (some ("staticmethod(function) -> method\n\nConvert a function to be a static method.\n" ++
         "\nA static method does not receive an implicit first argument.\n" ++
         "To declare a static method, use this idiom:\n" ++
         "\n     class C:\n         @staticmethod\n" ++
         "         def f(arg1, arg2, argN):\n             ...\n" ++
         "\nIt can be called either on the class (e.g. C.f()) or on an instance\n" ++
         "(e.g. C().f()). Both the class and the instance are ignored, and\n" ++
         "neither is passed implicitly as the first argument to the method.\n" ++
         "\nStatic methods in Python are similar to those found in Java or C++.\n" ++
         "For a more advanced concept, see the classmethod builtin."))⟩]

/-- The members of a kind itself, in their order. -/
def members : Kind → List Member
  | .text => textMembers
  | .object => objectMembers
  | .kind => kindMembers
  | .tuple => tupleMembers
  | .table => tableMembers
  | .nothing => nothingMembers
  | .integer => integerMembers
  | .truth => truthMembers
  | .function => functionMembers
  | .boundOperator => boundOperatorMembers
  | .method => methodMembers
  | .operator => operatorMembers
  | .attribute => attributeMembers
  | .slot => slotMembers
  | .kindMethod => kindMethodMembers
  | .free => freeMembers

def name : Kind → String
  | .text => "str"
  | .object => "object"
  | .kind => "type"
  | .tuple => "tuple"
  | .table => "mappingproxy"
  | .nothing => "NoneType"
  | .integer => "int"
  | .truth => "bool"
  | .function => "builtin_function_or_method"
  | .boundOperator => "method-wrapper"
  | .method => "method_descriptor"
  | .operator => "wrapper_descriptor"
  | .attribute => "getset_descriptor"
  | .slot => "member_descriptor"
  | .kindMethod => "classmethod_descriptor"
  | .free => "staticmethod"

def description? : Kind → Option String
  | .text =>
    some ("str(object='') -> str\nstr(bytes_or_buffer[, encoding[, errors]]) -> str\n" ++
      "\nCreate a new string object from the given object. If encoding or\n" ++
      "errors is specified, then the object must expose a data buffer\n" ++
      "that will be decoded using the given encoding and error handler.\n" ++
      "Otherwise, returns the result of object.__str__() (if defined)\n" ++
      "or repr(object).\nencoding defaults to sys.getdefaultencoding().\n" ++
      "errors defaults to 'strict'.")
  | .object =>
    some ("The base class of the class hierarchy.\n\n" ++
      "When called, it accepts no arguments and returns a new featureless\n" ++
      "instance that has no instance attributes and cannot be given any.\n")
  | .kind =>
    some "type(object) -> the object's type\ntype(name, bases, dict, **kwds) -> a new type"
  | .tuple =>
    some ("Built-in immutable sequence.\n\nIf no argument is given, the constructor returns" ++
      " an empty tuple.\nIf iterable is specified the tuple is initialized from iterabl" ++
      "e's items.\n\nIf the argument is a tuple, the return value is the same object.")
  | .table => none
  | .nothing => none
  | .integer =>
    some ("int([x]) -> integer\nint(x, base=10) -> integer\n" ++
      "\nConvert a number or string to an integer, or return 0 if no arguments\n" ++
      "are given.  If x is a number, return x.__int__().  For floating point\n" ++
      "numbers, this truncates towards zero.\n\n" ++
      "If x is not a number or if base is given, then x must be a string,\n" ++
      "bytes, or bytearray instance representing an integer literal in the\n" ++
      "given base.  The literal can be preceded by '+' or '-' and be surrounded\n" ++
      "by whitespace.  The base defaults to 10.  Valid bases are 0 and 2-36.\n" ++
      "Base 0 means to interpret the base from the string as an integer literal.\n" ++
      ">>> int('0b100', base=0)\n4")
  | .truth =>
    some ("bool(x) -> bool\n\nReturns True when the argument x is true, False otherwise.\n" ++
      "The builtins True and False are the only two instances of the class bool.\n" ++
      "The class bool is a subclass of the class int, and cannot be subclassed.")
  | .function => none
  | .boundOperator => none
  | .method => none
  | .operator => none
  | .attribute => none
  | .slot => none
  | .kindMethod => none
  | .free =>
    some ("staticmethod(function) -> method\n\nConvert a function to be a static method.\n" ++
      "\nA static method does not receive an implicit first argument.\n" ++
      "To declare a static method, use this idiom:\n" ++
      "\n     class C:\n         @staticmethod\n" ++
      "         def f(arg1, arg2, argN):\n             ...\n" ++
      "\nIt can be called either on the class (e.g. C.f()) or on an instance\n" ++
      "(e.g. C().f()). Both the class and the instance are ignored, and\n" ++
      "neither is passed implicitly as the first argument to the method.\n" ++
      "\nStatic methods in Python are similar to those found in Java or C++.\n" ++
      "For a more advanced concept, see the classmethod builtin.")

def signature? : Kind → Option String
  | .text => none
  | .object => some "()"
  | .kind => none
  | .tuple => some "(iterable=(), /)"
  | .table => none
  | .nothing => none
  | .integer => none
  | .truth => none
  | .function => none
  | .boundOperator => none
  | .method => none
  | .operator => none
  | .attribute => none
  | .slot => none
  | .kindMethod => none
  | .free => none

/-- The numbers that are known of a kind. -/
def measures : Kind → List (String × Nat)
  | .text =>
    [("__basicsize__", 80), ("__itemsize__", 0), ("__flags__", 273159424),
     ("__dictoffset__", 0), ("__weakrefoffset__", 0)]
  | .object =>
    [("__basicsize__", 16), ("__itemsize__", 0), ("__flags__", 529664),
     ("__dictoffset__", 0), ("__weakrefoffset__", 0)]
  | .kind =>
    [("__basicsize__", 904), ("__itemsize__", 40), ("__flags__", 2148031744),
     ("__dictoffset__", 264), ("__weakrefoffset__", 368)]
  | .tuple =>
    [("__basicsize__", 24), ("__itemsize__", 8), ("__flags__", 71849248),
     ("__dictoffset__", 0), ("__weakrefoffset__", 0)]
  | .table =>
    [("__basicsize__", 24), ("__itemsize__", 0), ("__flags__", 545088),
     ("__dictoffset__", 0), ("__weakrefoffset__", 0)]
  | .nothing =>
    [("__basicsize__", 16), ("__itemsize__", 0), ("__flags__", 528640),
     ("__dictoffset__", 0), ("__weakrefoffset__", 0)]
  | .integer =>
    [("__basicsize__", 24), ("__itemsize__", 4), ("__flags__", 21501184),
     ("__dictoffset__", 0), ("__weakrefoffset__", 0)]
  | .truth =>
    [("__basicsize__", 32), ("__itemsize__", 4), ("__flags__", 21500160),
     ("__dictoffset__", 0), ("__weakrefoffset__", 0)]
  | .function =>
    [("__basicsize__", 56), ("__itemsize__", 0), ("__flags__", 547200),
     ("__dictoffset__", 0), ("__weakrefoffset__", 40)]
  | .boundOperator =>
    [("__basicsize__", 32), ("__itemsize__", 0), ("__flags__", 20864),
     ("__dictoffset__", 0), ("__weakrefoffset__", 0)]
  | .method =>
    [("__basicsize__", 56), ("__itemsize__", 0), ("__flags__", 678272),
     ("__dictoffset__", 0), ("__weakrefoffset__", 0)]
  | .operator =>
    [("__basicsize__", 56), ("__itemsize__", 0), ("__flags__", 676224),
     ("__dictoffset__", 0), ("__weakrefoffset__", 0)]
  | .attribute =>
    [("__basicsize__", 48), ("__itemsize__", 0), ("__flags__", 545152),
     ("__dictoffset__", 0), ("__weakrefoffset__", 0)]
  | .slot =>
    [("__basicsize__", 48), ("__itemsize__", 0), ("__flags__", 545152),
     ("__dictoffset__", 0), ("__weakrefoffset__", 0)]
  | .kindMethod =>
    [("__basicsize__", 56), ("__itemsize__", 0), ("__flags__", 545152),
     ("__dictoffset__", 0), ("__weakrefoffset__", 0)]
  | .free =>
    [("__basicsize__", 32), ("__itemsize__", 0), ("__flags__", 546048),
     ("__dictoffset__", 24), ("__weakrefoffset__", 0)]

/-- The kind that a kind extends. -/
def base? : Kind → Option Kind
  | .object => none
  | .truth => some .integer
  | _ => some .object

/-- A kind and those that it extends, the nearest first. -/
def line : Kind → List Kind
  | .object => [.object]
  | .truth => [.truth, .integer, .object]
  | k => [k, .object]

def ownMember? (k : Kind) (name : String) : Option Member :=
  k.members.find? (·.name = name)

/-- The member of a name, and the kind that has it. -/
def member? (k : Kind) (name : String) : Option (Kind × Member) :=
  k.line.findSome? fun owner => (owner.ownMember? name).map fun m => (owner, m)

end Kind

end BuildVersion.Template
