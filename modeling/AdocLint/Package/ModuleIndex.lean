/-! The modules in which the distribution script looks for a command that is not one of its own. -/

namespace AdocLint.Package

inductive Member where
  | foreignClass (shown : String)
  | notClass
  deriving DecidableEq, Repr

def plainModules : List (String × List String) := [
  ("__phello__", ["spam"]),
  ("asyncio", ["base_events", "base_futures", "base_subprocess", "base_tasks", "constants",
    "coroutines", "events", "exceptions", "format_helpers", "futures", "locks", "log", "mixins",
    "proactor_events", "protocols", "queues", "runners", "selector_events", "sslproto",
    "staggered", "streams", "taskgroups", "tasks", "threads", "timeouts", "transports", "trsock",
    "unix_events"]),
  ("collections", ["abc"]),
  ("concurrent", ["futures"]),
  ("concurrent.futures", ["process", "thread"]),
  ("ctypes", ["macholib", "util", "wintypes"]),
  ("ctypes.macholib", ["dyld", "dylib", "framework"]),
  ("curses", ["textpad"]),
  ("dbm", ["dumb", "ndbm"]),
  ("email", ["base64mime", "charset", "contentmanager", "encoders", "errors", "feedparser",
    "generator", "header", "headerregistry", "iterators", "message", "mime", "parser", "policy",
    "quoprimime", "utils"]),
  ("email.mime", ["application", "audio", "base", "image", "multipart", "nonmultipart", "text"]),
  ("encodings", ["ascii", "base64_codec", "big5", "big5hkscs", "bz2_codec", "charmap", "cp037",
    "cp1006", "cp1026", "cp1125", "cp1140", "cp1250", "cp1251", "cp1252", "cp1253", "cp1254",
    "cp1255", "cp1256", "cp1257", "cp1258", "cp273", "cp424", "cp437", "cp500", "cp720", "cp737",
    "cp775", "cp850", "cp852", "cp855", "cp856", "cp857", "cp858", "cp860", "cp861", "cp862",
    "cp863", "cp864", "cp865", "cp866", "cp869", "cp874", "cp875", "cp932", "cp949", "cp950",
    "euc_jis_2004", "euc_jisx0213", "euc_jp", "euc_kr", "gb18030", "gb2312", "gbk", "hex_codec",
    "hp_roman8", "hz", "idna", "iso2022_jp", "iso2022_jp_1", "iso2022_jp_2", "iso2022_jp_2004",
    "iso2022_jp_3", "iso2022_jp_ext", "iso2022_kr", "iso8859_1", "iso8859_10", "iso8859_11",
    "iso8859_13", "iso8859_14", "iso8859_15", "iso8859_16", "iso8859_2", "iso8859_3",
    "iso8859_4", "iso8859_5", "iso8859_6", "iso8859_7", "iso8859_8", "iso8859_9", "johab",
    "koi8_r", "koi8_t", "koi8_u", "kz1048", "latin_1", "mac_arabic", "mac_croatian",
    "mac_cyrillic", "mac_farsi", "mac_greek", "mac_iceland", "mac_latin2", "mac_roman",
    "mac_romanian", "mac_turkish", "palmos", "ptcp154", "punycode", "quopri_codec",
    "raw_unicode_escape", "rot_13", "shift_jis", "shift_jis_2004", "shift_jisx0213", "tis_620",
    "undefined", "unicode_escape", "utf_16", "utf_16_be", "utf_16_le", "utf_32", "utf_32_be",
    "utf_32_le", "utf_7", "utf_8", "utf_8_sig", "uu_codec", "zlib_codec"]),
  ("html", ["entities", "parser"]),
  ("http", ["client", "cookiejar", "cookies", "server"]),
  ("idlelib", ["autocomplete", "autocomplete_w", "autoexpand", "calltip", "calltip_w",
    "codecontext", "colorizer", "config", "config_key", "configdialog", "debugger", "debugger_r",
    "debugobj", "debugobj_r", "delegator", "dynoption", "editor", "filelist", "format", "help",
    "help_about", "history", "hyperparser", "iomenu", "macosx", "mainmenu", "multicall",
    "outwin", "parenmatch", "percolator", "pyparse", "query", "redirector", "rpc",
    "scrolledlist", "search", "searchbase", "searchengine", "sidebar", "squeezer", "stackviewer",
    "statusbar", "textview", "tooltip", "tree", "undo", "util", "window", "zoomheight", "zzdummy"]),
  ("importlib", ["machinery", "readers", "resources", "simple", "util"]),
  ("importlib.resources", ["readers", "simple"]),
  ("json", ["decoder", "encoder", "scanner", "tool"]),
  ("lib2to3", ["btm_matcher", "btm_utils", "fixer_base", "fixer_util", "fixes", "patcomp",
    "pgen2", "pygram", "pytree", "refactor"]),
  ("lib2to3.fixes", ["fix_apply", "fix_asserts", "fix_basestring", "fix_buffer", "fix_dict",
    "fix_except", "fix_exec", "fix_execfile", "fix_exitfunc", "fix_filter", "fix_funcattrs",
    "fix_future", "fix_getcwdu", "fix_has_key", "fix_idioms", "fix_import", "fix_imports",
    "fix_imports2", "fix_input", "fix_intern", "fix_isinstance", "fix_itertools",
    "fix_itertools_imports", "fix_long", "fix_map", "fix_metaclass", "fix_methodattrs", "fix_ne",
    "fix_next", "fix_nonzero", "fix_numliterals", "fix_operator", "fix_paren", "fix_print",
    "fix_raise", "fix_raw_input", "fix_reduce", "fix_reload", "fix_renames", "fix_repr",
    "fix_set_literal", "fix_standarderror", "fix_sys_exc", "fix_throw", "fix_tuple_params",
    "fix_types", "fix_unicode", "fix_urllib", "fix_ws_comma", "fix_xrange", "fix_xreadlines",
    "fix_zip"]),
  ("lib2to3.pgen2", ["driver", "grammar", "literals", "parse", "pgen", "token"]),
  ("logging", ["config", "handlers"]),
  ("multiprocessing", ["connection", "context", "dummy", "forkserver", "heap", "managers",
    "pool", "popen_fork", "popen_forkserver", "popen_spawn_posix", "process", "queues",
    "reduction", "resource_sharer", "resource_tracker", "shared_memory", "sharedctypes", "spawn",
    "synchronize", "util"]),
  ("multiprocessing.dummy", ["connection"]),
  ("sqlite3", ["dbapi2", "dump"]),
  ("tkinter", ["colorchooser", "commondialog", "constants", "dialog", "dnd", "filedialog",
    "font", "messagebox", "scrolledtext", "simpledialog", "tix", "ttk"]),
  ("turtledemo", ["bytedesign", "chaos", "clock", "colormixer", "forest", "fractalcurves",
    "lindenmayer", "minimal_hanoi", "nim", "paint", "peace", "penrose", "planet_and_moon",
    "rosette", "round_dance", "sorting_animate", "two_canvases", "yinyang"]),
  ("unittest", ["async_case", "case", "loader", "mock", "result", "runner", "signals", "suite",
    "util"]),
  ("urllib", ["error", "parse", "request", "response", "robotparser"]),
  ("wsgiref", ["handlers", "headers", "simple_server", "types", "util", "validate"]),
  ("xml", ["dom", "etree", "parsers", "sax"]),
  ("xml.dom", ["domreg", "expatbuilder", "minicompat", "minidom", "pulldom", "xmlbuilder"]),
  ("xml.etree", ["ElementInclude", "ElementPath", "cElementTree"]),
  ("xml.parsers", ["expat"]),
  ("xml.sax", ["expatreader", "handler", "saxutils", "xmlreader"]),
  ("xmlrpc", ["client", "server"]),
  ("setuptools._distutils", ["archive_util", "bcppcompiler", "ccompiler", "cmd", "command",
    "config", "core", "cygwinccompiler", "debug", "dep_util", "dir_util", "dist", "errors",
    "extension", "file_util", "filelist", "msvccompiler", "py38compat", "py39compat",
    "text_file", "unixccompiler", "util", "version", "versionpredicate"]),
  ("setuptools._distutils.command", ["py37compat"]),
  ("setuptools._vendor", ["importlib_metadata", "importlib_resources", "jaraco",
    "more_itertools", "ordered_set", "packaging", "pyparsing", "tomli", "typing_extensions",
    "zipp"]),
  ("setuptools._vendor.importlib_resources", ["readers", "simple"]),
  ("setuptools._vendor.jaraco", ["context", "text"]),
  ("setuptools._vendor.more_itertools", ["more", "recipes"]),
  ("setuptools._vendor.packaging", ["markers", "requirements", "specifiers", "tags", "utils",
    "version"]),
  ("setuptools._vendor.pyparsing", ["actions", "common", "core", "exceptions", "helpers",
    "results", "testing", "unicode", "util"]),
  ("setuptools", ["archive_util", "build_meta", "command", "config", "dep_util", "depends",
    "discovery", "dist", "errors", "extension", "extern", "installer", "launch", "monkey",
    "msvc", "namespaces", "package_index", "py34compat", "sandbox", "unicode_utils", "version",
    "wheel", "windows_support"]),
  ("setuptools.command", ["py36compat"]),
  ("setuptools.config._validate_pyproject", ["error_reporting", "extra_validations",
    "fastjsonschema_exceptions", "fastjsonschema_validations", "formats"]),
  ("setuptools.config", ["expand", "pyprojecttoml", "setupcfg"]),
  ("pkg_resources._vendor", ["appdirs", "importlib_resources", "jaraco", "more_itertools",
    "packaging", "pyparsing", "zipp"]),
  ("pkg_resources._vendor.importlib_resources", ["readers", "simple"]),
  ("pkg_resources._vendor.jaraco", ["context", "text"]),
  ("pkg_resources._vendor.more_itertools", ["more", "recipes"]),
  ("pkg_resources._vendor.packaging", ["markers", "requirements", "specifiers", "tags", "utils",
    "version"]),
  ("pkg_resources._vendor.pyparsing", ["actions", "common", "core", "exceptions", "helpers",
    "results", "testing", "unicode", "util"]),
  ("pkg_resources", ["extern"]),
  ("_distutils_hack", ["override"]),
  ("wheel", ["cli", "macosx_libfile", "metadata", "util", "vendored", "wheelfile"]),
  ("wheel.vendored", ["packaging"]),
  ("wheel.vendored.packaging", ["markers", "requirements", "specifiers", "tags", "utils",
    "version"]),
  ("distutils", ["archive_util", "bcppcompiler", "ccompiler", "cmd", "command", "config", "core",
    "cygwinccompiler", "debug", "dep_util", "dir_util", "dist", "errors", "extension",
    "file_util", "filelist", "msvccompiler", "py38compat", "py39compat", "text_file",
    "unixccompiler", "util", "version", "versionpredicate"]),
  ("distutils.command", ["py37compat"]),
  ("os", ["path"]),
  ("yaml", ["composer", "constructor", "cyaml", "dumper", "emitter", "error", "events", "loader",
    "nodes", "parser", "reader", "representer", "resolver", "scanner", "serializer", "tokens"]),
  ("asciidoc_linter", ["cli", "linter", "parser", "reporter", "rules"]),
  ("asciidoc_linter.rules", ["base", "base_rules", "block_rules", "concrete_rules",
    "format_rules", "heading_rules", "image_rules", "markdown_table_rules", "table_rules",
    "whitespace_rules"])]

def selfNamedMembers : List (String × Member) := [
  ("asyncio.subprocess", .notClass),
  ("curses.ascii", .notClass),
  ("curses.has_key", .notClass),
  ("curses.panel", .foreignClass "_curses_panel.panel"),
  ("email.mime.message", .notClass),
  ("encodings.aliases", .notClass),
  ("idlelib.grep", .notClass),
  ("idlelib.replace", .notClass),
  ("importlib.abc", .notClass),
  ("importlib.metadata", .notClass),
  ("importlib.resources.abc", .notClass),
  ("lib2to3.main", .notClass),
  ("lib2to3.pgen2.tokenize", .notClass),
  ("pydoc_data.topics", .notClass),
  ("turtledemo.tree", .notClass),
  ("unittest.main", .foreignClass "unittest.main.TestProgram"),
  ("xml.dom.NodeFilter", .foreignClass "xml.dom.NodeFilter.NodeFilter"),
  ("xml.etree.ElementTree", .foreignClass "xml.etree.ElementTree.ElementTree"),
  ("setuptools._distutils.fancy_getopt", .notClass),
  ("setuptools._distutils.log", .notClass),
  ("setuptools._distutils.spawn", .notClass),
  ("setuptools._distutils.sysconfig", .notClass),
  ("setuptools._vendor.importlib_resources.abc", .notClass),
  ("setuptools._vendor.jaraco.functools", .notClass),
  ("setuptools.glob", .notClass),
  ("setuptools.logging", .notClass),
  ("pkg_resources._vendor.importlib_resources.abc", .notClass),
  ("pkg_resources._vendor.jaraco.functools", .notClass),
  ("wheel.cli.convert", .notClass),
  ("wheel.cli.pack", .notClass),
  ("wheel.cli.tags", .notClass),
  ("wheel.cli.unpack", .notClass),
  ("distutils.fancy_getopt", .notClass),
  ("distutils.log", .notClass),
  ("distutils.spawn", .notClass),
  ("distutils.sysconfig", .notClass)]

def moduleMember? (package leaf : String) : Option (Option Member) :=
  match selfNamedMembers.lookup (package ++ "." ++ leaf) with
  | some m => some (some m)
  | none =>
    if ((plainModules.lookup package).getD []).contains leaf then some none else none

end AdocLint.Package
