import AdocLint.Package.Metadata

/-! The commands and options of the distribution script, as the build tools installed with it define
them. -/

namespace AdocLint.Package

structure Switch where
  long : String
  short : Option Char := none
  help : String
  takesValue : Bool := false
  query : Option Query := none
  negates : Option String := none
  deriving Inhabited

def Switch.attribute (s : Switch) : String :=
  (s.negates.getD s.long).replace "-" "_"

inductive Listing where
  | standard
  | extra
  | unlisted
  deriving DecidableEq, Repr, Inhabited

structure Command where
  name : String
  description : String
  listing : Listing
  options : List Switch := []
  helpOptions : List (Switch × String) := []
  consumesArguments : Bool := false
  deriving Inhabited

def compilerList : String :=
  "List of available compilers:\n" ++
  "  --compiler=bcpp     Borland C++ Compiler\n" ++
  "  --compiler=cygwin   Cygwin port of GNU C Compiler for Win32\n" ++
  "  --compiler=mingw32  Mingw32 port of GNU C Compiler for Win32\n" ++
  "  --compiler=msvc     Microsoft Visual C++\n" ++
  "  --compiler=unix     standard UNIX-style compiler\n"

def sourceFormatList : String :=
  "List of available source distribution formats:\n" ++
  "  --formats=bztar  bzip2'ed tar-file\n" ++
  "  --formats=gztar  gzip'ed tar-file\n" ++
  "  --formats=tar    uncompressed tar file\n" ++
  "  --formats=xztar  xz'ed tar-file\n" ++
  "  --formats=zip    ZIP file\n" ++
  "  --formats=ztar   compressed tar file\n"

def builtFormatList : String :=
  "List of available distribution formats:\n" ++
  "  --formats=rpm    RPM distribution\n" ++
  "  --formats=gztar  gzip'ed tar file\n" ++
  "  --formats=bztar  bzip2'ed tar file\n" ++
  "  --formats=xztar  xz'ed tar file\n" ++
  "  --formats=ztar   compressed tar file\n" ++
  "  --formats=tar    tar file\n" ++
  "  --formats=zip    ZIP file\n" ++
  "  --formats=egg    Python .egg file\n"

def buildCommand : Command where
  name := "build"
  description := "build everything needed to install"
  listing := .standard
  options := [
    { long := "build-base", short := some 'b', takesValue := true,
      help := "base directory for build library" },
    { long := "build-purelib", takesValue := true,
      help := "build directory for platform-neutral distributions" },
    { long := "build-platlib", takesValue := true,
      help := "build directory for platform-specific distributions" },
    { long := "build-lib", takesValue := true,
      help := "build directory for all distribution (defaults to either build-purelib " ++
        "or build-platlib" },
    { long := "build-scripts", takesValue := true, help := "build directory for scripts" },
    { long := "build-temp", short := some 't', takesValue := true,
      help := "temporary build directory" },
    { long := "plat-name", short := some 'p', takesValue := true,
      help := "platform name to build for, if supported (default: linux-x86_64)" },
    { long := "compiler", short := some 'c', takesValue := true,
      help := "specify the compiler type" },
    { long := "parallel", short := some 'j', takesValue := true,
      help := "number of parallel build jobs" },
    { long := "debug", short := some 'g',
      help := "compile extensions and libraries with debugging information" },
    { long := "force", short := some 'f',
      help := "forcibly build everything (ignore file timestamps)" },
    { long := "executable", short := some 'e', takesValue := true,
      help := "specify final destination interpreter path (build.py)" }]
  helpOptions := [
    ({ long := "help-compiler", help := "list available compilers" }, compilerList)]

def buildPyCommand : Command where
  name := "build_py"
  description := "\"build\" pure Python modules (copy to build directory)"
  listing := .standard
  options := [
    { long := "build-lib", short := some 'd', takesValue := true,
      help := "directory to \"build\" (copy) to" },
    { long := "compile", short := some 'c', help := "compile .py to .pyc" },
    { long := "no-compile", negates := some "compile",
      help := "don't compile .py files [default]" },
    { long := "optimize", short := some 'O', takesValue := true,
      help := "also compile with optimization: -O1 for \"python -O\", -O2 for \"python " ++
        "-OO\", and -O0 to disable [default: -O0]" },
    { long := "force", short := some 'f',
      help := "forcibly build everything (ignore file timestamps)" }]

def buildExtCommand : Command where
  name := "build_ext"
  description := "build C/C++ extensions (compile/link to build directory)"
  listing := .standard
  options := [
    { long := "build-lib", short := some 'b', takesValue := true,
      help := "directory for compiled extension modules" },
    { long := "build-temp", short := some 't', takesValue := true,
      help := "directory for temporary files (build by-products)" },
    { long := "plat-name", short := some 'p', takesValue := true,
      help := "platform name to cross-compile for, if supported (default: linux-x86_64)" },
    { long := "inplace", short := some 'i',
      help := "ignore build-lib and put compiled extensions into the source directory " ++
        "alongside your pure Python modules" },
    { long := "include-dirs", short := some 'I', takesValue := true,
      help := "list of directories to search for header files (separated by ':')" },
    { long := "define", short := some 'D', takesValue := true,
      help := "C preprocessor macros to define" },
    { long := "undef", short := some 'U', takesValue := true,
      help := "C preprocessor macros to undefine" },
    { long := "libraries", short := some 'l', takesValue := true,
      help := "external C libraries to link with" },
    { long := "library-dirs", short := some 'L', takesValue := true,
      help := "directories to search for external C libraries (separated by ':')" },
    { long := "rpath", short := some 'R', takesValue := true,
      help := "directories to search for shared C libraries at runtime" },
    { long := "link-objects", short := some 'O', takesValue := true,
      help := "extra explicit link objects to include in the link" },
    { long := "debug", short := some 'g', help := "compile/link with debugging information" },
    { long := "force", short := some 'f',
      help := "forcibly build everything (ignore file timestamps)" },
    { long := "compiler", short := some 'c', takesValue := true,
      help := "specify the compiler type" },
    { long := "parallel", short := some 'j', takesValue := true,
      help := "number of parallel build jobs" },
    { long := "swig-cpp", help := "make SWIG create C++ files (default is C)" },
    { long := "swig-opts", takesValue := true, help := "list of SWIG command line options" },
    { long := "swig", takesValue := true, help := "path to the SWIG executable" },
    { long := "user", help := "add user include, library and rpath" }]
  helpOptions := [
    ({ long := "help-compiler", help := "list available compilers" }, compilerList)]

def buildClibCommand : Command where
  name := "build_clib"
  description := "build C/C++ libraries used by Python extensions"
  listing := .standard
  options := [
    { long := "build-clib", short := some 'b', takesValue := true,
      help := "directory to build C/C++ libraries to" },
    { long := "build-temp", short := some 't', takesValue := true,
      help := "directory to put temporary build by-products" },
    { long := "debug", short := some 'g', help := "compile with debugging information" },
    { long := "force", short := some 'f',
      help := "forcibly build everything (ignore file timestamps)" },
    { long := "compiler", short := some 'c', takesValue := true,
      help := "specify the compiler type" }]
  helpOptions := [
    ({ long := "help-compiler", help := "list available compilers" }, compilerList)]

def buildScriptsCommand : Command where
  name := "build_scripts"
  description := "\"build\" scripts (copy and fixup #! line)"
  listing := .standard
  options := [
    { long := "build-dir", short := some 'd', takesValue := true,
      help := "directory to \"build\" (copy) to" },
    { long := "force", short := some 'f',
      help := "forcibly build everything (ignore file timestamps" },
    { long := "executable", short := some 'e', takesValue := true,
      help := "specify final destination interpreter path" }]

def cleanCommand : Command where
  name := "clean"
  description := "clean up temporary files from 'build' command"
  listing := .standard
  options := [
    { long := "build-base", short := some 'b', takesValue := true,
      help := "base build directory (default: 'build.build-base')" },
    { long := "build-lib", takesValue := true,
      help := "build directory for all modules (default: 'build.build-lib')" },
    { long := "build-temp", short := some 't', takesValue := true,
      help := "temporary build directory (default: 'build.build-temp')" },
    { long := "build-scripts", takesValue := true,
      help := "build directory for scripts (default: 'build.build-scripts')" },
    { long := "bdist-base", takesValue := true,
      help := "temporary directory for built distributions" },
    { long := "all", short := some 'a',
      help := "remove all build output, not just temporary by-products" }]

def installCommand : Command where
  name := "install"
  description := "install everything from build directory"
  listing := .standard
  options := [
    { long := "prefix", takesValue := true, help := "installation prefix" },
    { long := "exec-prefix", takesValue := true,
      help := "(Unix only) prefix for platform-specific files" },
    { long := "home", takesValue := true, help := "(Unix only) home directory to install under" },
    { long := "install-base", takesValue := true,
      help := "base installation directory (instead of --prefix or --home)" },
    { long := "install-platbase", takesValue := true,
      help := "base installation directory for platform-specific files (instead of " ++
        "--exec-prefix or --home)" },
    { long := "root", takesValue := true,
      help := "install everything relative to this alternate root directory" },
    { long := "install-purelib", takesValue := true,
      help := "installation directory for pure Python module distributions" },
    { long := "install-platlib", takesValue := true,
      help := "installation directory for non-pure module distributions" },
    { long := "install-lib", takesValue := true,
      help := "installation directory for all module distributions (overrides " ++
        "--install-purelib and --install-platlib)" },
    { long := "install-headers", takesValue := true,
      help := "installation directory for C/C++ headers" },
    { long := "install-scripts", takesValue := true,
      help := "installation directory for Python scripts" },
    { long := "install-data", takesValue := true,
      help := "installation directory for data files" },
    { long := "compile", short := some 'c', help := "compile .py to .pyc [default]" },
    { long := "no-compile", negates := some "compile", help := "don't compile .py files" },
    { long := "optimize", short := some 'O', takesValue := true,
      help := "also compile with optimization: -O1 for \"python -O\", -O2 for \"python " ++
        "-OO\", and -O0 to disable [default: -O0]" },
    { long := "force", short := some 'f',
      help := "force installation (overwrite any existing files)" },
    { long := "skip-build", help := "skip rebuilding everything (for testing/debugging)" },
    { long := "record", takesValue := true,
      help := "filename in which to record list of installed files" },
    { long := "user",
      help := "install in user site-package '/root/.local/lib/python3.11/site-packages'" },
    { long := "old-and-unmanageable", help := "Try not to use this!" },
    { long := "single-version-externally-managed",
      help := "used by system package builders to create 'flat' eggs" }]

def installLibCommand : Command where
  name := "install_lib"
  description := "install all Python modules (extensions and pure Python)"
  listing := .standard
  options := [
    { long := "install-dir", short := some 'd', takesValue := true,
      help := "directory to install to" },
    { long := "build-dir", short := some 'b', takesValue := true,
      help := "build directory (where to install from)" },
    { long := "force", short := some 'f',
      help := "force installation (overwrite existing files)" },
    { long := "compile", short := some 'c', help := "compile .py to .pyc [default]" },
    { long := "no-compile", negates := some "compile", help := "don't compile .py files" },
    { long := "optimize", short := some 'O', takesValue := true,
      help := "also compile with optimization: -O1 for \"python -O\", -O2 for \"python " ++
        "-OO\", and -O0 to disable [default: -O0]" },
    { long := "skip-build", help := "skip the build steps" }]

def installHeadersCommand : Command where
  name := "install_headers"
  description := "install C/C++ header files"
  listing := .standard
  options := [
    { long := "install-dir", short := some 'd', takesValue := true,
      help := "directory to install header files to" },
    { long := "force", short := some 'f',
      help := "force installation (overwrite existing files)" }]

def installScriptsCommand : Command where
  name := "install_scripts"
  description := "install scripts (Python or otherwise)"
  listing := .standard
  options := [
    { long := "install-dir", short := some 'd', takesValue := true,
      help := "directory to install scripts to" },
    { long := "build-dir", short := some 'b', takesValue := true,
      help := "build directory (where to install from)" },
    { long := "force", short := some 'f',
      help := "force installation (overwrite existing files)" },
    { long := "skip-build", help := "skip the build steps" }]

def installDataCommand : Command where
  name := "install_data"
  description := "install data files"
  listing := .standard
  options := [
    { long := "install-dir", short := some 'd', takesValue := true,
      help := "base directory for installing data files (default: installation base dir)" },
    { long := "root", takesValue := true,
      help := "install everything relative to this alternate root directory" },
    { long := "force", short := some 'f',
      help := "force installation (overwrite existing files)" }]

def sdistCommand : Command where
  name := "sdist"
  description := "create a source distribution (tarball, zip file, etc.)"
  listing := .standard
  options := [
    { long := "formats", takesValue := true,
      help := "formats for source distribution (comma-separated list)" },
    { long := "keep-temp", short := some 'k',
      help := "keep the distribution tree around after creating archive file(s)" },
    { long := "dist-dir", short := some 'd', takesValue := true,
      help := "directory to put the source distribution archive(s) in [default: dist]" },
    { long := "owner", short := some 'u', takesValue := true,
      help := "Owner name used when creating a tar file [default: current user]" },
    { long := "group", short := some 'g', takesValue := true,
      help := "Group name used when creating a tar file [default: current group]" }]
  helpOptions := [
    ({ long := "help-formats", help := "list available distribution formats" }, sourceFormatList)]

def registerCommand : Command where
  name := "register"
  description := "register the distribution with the Python package index"
  listing := .standard
  options := [
    { long := "repository", short := some 'r', takesValue := true,
      help := "url of repository [default: https://upload.pypi.org/legacy/]" },
    { long := "show-response", help := "display full response text from server" },
    { long := "list-classifiers", help := "list the valid Trove classifiers" },
    { long := "strict",
      help := "Will stop the registering if the meta-data are not fully compliant" }]

def bdistCommand : Command where
  name := "bdist"
  description := "create a built (binary) distribution"
  listing := .standard
  options := [
    { long := "bdist-base", short := some 'b', takesValue := true,
      help := "temporary directory for creating built distributions" },
    { long := "plat-name", short := some 'p', takesValue := true,
      help := "platform name to embed in generated filenames (default: linux-x86_64)" },
    { long := "formats", takesValue := true,
      help := "formats for distribution (comma-separated list)" },
    { long := "dist-dir", short := some 'd', takesValue := true,
      help := "directory to put final built distributions in [default: dist]" },
    { long := "skip-build", help := "skip rebuilding everything (for testing/debugging)" },
    { long := "owner", short := some 'u', takesValue := true,
      help := "Owner name used when creating a tar file [default: current user]" },
    { long := "group", short := some 'g', takesValue := true,
      help := "Group name used when creating a tar file [default: current group]" }]
  helpOptions := [
    ({ long := "help-formats", help := "lists available distribution formats" }, builtFormatList)]

def bdistDumbCommand : Command where
  name := "bdist_dumb"
  description := "create a \"dumb\" built distribution"
  listing := .standard
  options := [
    { long := "bdist-dir", short := some 'd', takesValue := true,
      help := "temporary directory for creating the distribution" },
    { long := "plat-name", short := some 'p', takesValue := true,
      help := "platform name to embed in generated filenames (default: linux-x86_64)" },
    { long := "format", short := some 'f', takesValue := true,
      help := "archive format to create (tar, gztar, bztar, xztar, ztar, zip)" },
    { long := "keep-temp", short := some 'k',
      help := "keep the pseudo-installation tree around after creating the distribution archive" },
    { long := "dist-dir", short := some 'd', takesValue := true,
      help := "directory to put final built distributions in" },
    { long := "skip-build", help := "skip rebuilding everything (for testing/debugging)" },
    { long := "relative", help := "build the archive using relative paths (default: false)" },
    { long := "owner", short := some 'u', takesValue := true,
      help := "Owner name used when creating a tar file [default: current user]" },
    { long := "group", short := some 'g', takesValue := true,
      help := "Group name used when creating a tar file [default: current group]" }]

def bdistRpmCommand : Command where
  name := "bdist_rpm"
  description := "create an RPM distribution"
  listing := .standard
  options := [
    { long := "bdist-base", takesValue := true,
      help := "base directory for creating built distributions" },
    { long := "rpm-base", takesValue := true,
      help := "base directory for creating RPMs (defaults to \"rpm\" under " ++
        "--bdist-base; must be specified for RPM 2)" },
    { long := "dist-dir", short := some 'd', takesValue := true,
      help := "directory to put final RPM files in (and .spec files if --spec-only)" },
    { long := "python", takesValue := true,
      help := "path to Python interpreter to hard-code in the .spec file (default: \"python\")" },
    { long := "fix-python",
      help := "hard-code the exact path to the current Python interpreter in the .spec file" },
    { long := "spec-only", help := "only regenerate spec file" },
    { long := "source-only", help := "only generate source RPM" },
    { long := "binary-only", help := "only generate binary RPM" },
    { long := "use-bzip2", help := "use bzip2 instead of gzip to create source distribution" },
    { long := "distribution-name", takesValue := true,
      help := "name of the (Linux) distribution to which this RPM applies (*not* the " ++
        "name of the module distribution!)" },
    { long := "group", takesValue := true,
      help := "package classification [default: \"Development/Libraries\"]" },
    { long := "release", takesValue := true, help := "RPM release number" },
    { long := "serial", takesValue := true, help := "RPM serial number" },
    { long := "vendor", takesValue := true,
      help := "RPM \"vendor\" (eg. \"Joe Blow <joe@example.com>\") [default: " ++
        "maintainer or author from setup script]" },
    { long := "packager", takesValue := true,
      help := "RPM packager (eg. \"Jane Doe <jane@example.net>\") [default: vendor]" },
    { long := "doc-files", takesValue := true,
      help := "list of documentation files (space or comma-separated)" },
    { long := "changelog", takesValue := true, help := "RPM changelog" },
    { long := "icon", takesValue := true, help := "name of icon file" },
    { long := "provides", takesValue := true, help := "capabilities provided by this package" },
    { long := "requires", takesValue := true, help := "capabilities required by this package" },
    { long := "conflicts", takesValue := true,
      help := "capabilities which conflict with this package" },
    { long := "build-requires", takesValue := true,
      help := "capabilities required to build this package" },
    { long := "obsoletes", takesValue := true,
      help := "capabilities made obsolete by this package" },
    { long := "no-autoreq", help := "do not automatically calculate dependencies" },
    { long := "keep-temp", short := some 'k', help := "don't clean up RPM build directory" },
    { long := "no-keep-temp", negates := some "keep-temp",
      help := "clean up RPM build directory [default]" },
    { long := "use-rpm-opt-flags",
      help := "compile with RPM_OPT_FLAGS when building from source RPM" },
    { long := "no-rpm-opt-flags", negates := some "use-rpm-opt-flags",
      help := "do not pass any RPM CFLAGS to compiler" },
    { long := "rpm3-mode", help := "RPM 3 compatibility mode (default)" },
    { long := "rpm2-mode", negates := some "rpm3-mode", help := "RPM 2 compatibility mode" },
    { long := "prep-script", takesValue := true,
      help := "Specify a script for the PREP phase of RPM building" },
    { long := "build-script", takesValue := true,
      help := "Specify a script for the BUILD phase of RPM building" },
    { long := "pre-install", takesValue := true,
      help := "Specify a script for the pre-INSTALL phase of RPM building" },
    { long := "install-script", takesValue := true,
      help := "Specify a script for the INSTALL phase of RPM building" },
    { long := "post-install", takesValue := true,
      help := "Specify a script for the post-INSTALL phase of RPM building" },
    { long := "pre-uninstall", takesValue := true,
      help := "Specify a script for the pre-UNINSTALL phase of RPM building" },
    { long := "post-uninstall", takesValue := true,
      help := "Specify a script for the post-UNINSTALL phase of RPM building" },
    { long := "clean-script", takesValue := true,
      help := "Specify a script for the CLEAN phase of RPM building" },
    { long := "verify-script", takesValue := true,
      help := "Specify a script for the VERIFY phase of the RPM build" },
    { long := "force-arch", takesValue := true,
      help := "Force an architecture onto the RPM build process" },
    { long := "quiet", short := some 'q',
      help := "Run the INSTALL phase of RPM building in quiet mode" }]

def checkCommand : Command where
  name := "check"
  description := "perform some checks on the package"
  listing := .standard
  options := [
    { long := "metadata", short := some 'm', help := "Verify meta-data" },
    { long := "restructuredtext", short := some 'r',
      help := "Checks if long string meta-data syntax are reStructuredText-compliant" },
    { long := "strict", short := some 's', help := "Will exit with an error if a check fails" }]

def uploadCommand : Command where
  name := "upload"
  description := "upload binary package to PyPI"
  listing := .standard
  options := [
    { long := "repository", short := some 'r', takesValue := true,
      help := "url of repository [default: https://upload.pypi.org/legacy/]" },
    { long := "show-response", help := "display full response text from server" },
    { long := "sign", short := some 's', help := "sign files to upload using gpg" },
    { long := "identity", short := some 'i', takesValue := true,
      help := "GPG identity used to sign files" }]

def bdistWheelCommand : Command where
  name := "bdist_wheel"
  description := "create a wheel distribution"
  listing := .extra
  options := [
    { long := "bdist-dir", short := some 'b', takesValue := true,
      help := "temporary directory for creating the distribution" },
    { long := "plat-name", short := some 'p', takesValue := true,
      help := "platform name to embed in generated filenames (default: linux_x86_64)" },
    { long := "keep-temp", short := some 'k',
      help := "keep the pseudo-installation tree around after creating the distribution archive" },
    { long := "dist-dir", short := some 'd', takesValue := true,
      help := "directory to put final built distributions in" },
    { long := "skip-build", help := "skip rebuilding everything (for testing/debugging)" },
    { long := "relative", help := "build the archive using relative paths (default: false)" },
    { long := "owner", short := some 'u', takesValue := true,
      help := "Owner name used when creating a tar file [default: current user]" },
    { long := "group", short := some 'g', takesValue := true,
      help := "Group name used when creating a tar file [default: current group]" },
    { long := "universal", help := "make a universal wheel (default: false)" },
    { long := "compression", takesValue := true,
      help := "zipfile compression (one of: stored, deflated) (default: 'deflated')" },
    { long := "python-tag", takesValue := true,
      help := "Python implementation compatibility tag (default: 'py3')" },
    { long := "build-number", takesValue := true,
      help := "Build number for this particular version. As specified in PEP-0427, " ++
        "this must start with a digit. [default: None]" },
    { long := "py-limited-api", takesValue := true,
      help := "Python tag (cp32|cp33|cpNN) for abi3 wheel tag (default: false)" }]

def aliasCommand : Command where
  name := "alias"
  description := "define a shortcut to invoke one or more commands"
  listing := .extra
  consumesArguments := true
  options := [
    { long := "remove", short := some 'r', help := "remove (unset) the alias" },
    { long := "global-config", short := some 'g',
      help := "save options to the site-wide distutils.cfg file" },
    { long := "user-config", short := some 'u',
      help := "save options to the current user's pydistutils.cfg file" },
    { long := "filename", short := some 'f', takesValue := true,
      help := "configuration file to use (default=setup.cfg)" }]

def bdistEggCommand : Command where
  name := "bdist_egg"
  description := "create an \"egg\" distribution"
  listing := .extra
  options := [
    { long := "bdist-dir", short := some 'b', takesValue := true,
      help := "temporary directory for creating the distribution" },
    { long := "plat-name", short := some 'p', takesValue := true,
      help := "platform name to embed in generated filenames (default: linux-x86_64)" },
    { long := "exclude-source-files", help := "remove all .py files from the generated egg" },
    { long := "keep-temp", short := some 'k',
      help := "keep the pseudo-installation tree around after creating the distribution archive" },
    { long := "dist-dir", short := some 'd', takesValue := true,
      help := "directory to put final built distributions in" },
    { long := "skip-build", help := "skip rebuilding everything (for testing/debugging)" }]

def developCommand : Command where
  name := "develop"
  description := "install package in 'development mode'"
  listing := .extra
  options := [
    { long := "prefix", takesValue := true, help := "installation prefix" },
    { long := "zip-ok", short := some 'z', help := "install package as a zipfile" },
    { long := "multi-version", short := some 'm',
      help := "make apps have to require() a version" },
    { long := "upgrade", short := some 'U',
      help := "force upgrade (searches PyPI for latest versions)" },
    { long := "install-dir", short := some 'd', takesValue := true,
      help := "install package to DIR" },
    { long := "script-dir", short := some 's', takesValue := true,
      help := "install scripts to DIR" },
    { long := "exclude-scripts", short := some 'x', help := "Don't install scripts" },
    { long := "always-copy", short := some 'a',
      help := "Copy all needed packages to install dir" },
    { long := "index-url", short := some 'i', takesValue := true,
      help := "base URL of Python Package Index" },
    { long := "find-links", short := some 'f', takesValue := true,
      help := "additional URL(s) to search for packages" },
    { long := "build-directory", short := some 'b', takesValue := true,
      help := "download/extract/build in DIR; keep the results" },
    { long := "optimize", short := some 'O', takesValue := true,
      help := "also compile with optimization: -O1 for \"python -O\", -O2 for \"python " ++
        "-OO\", and -O0 to disable [default: -O0]" },
    { long := "record", takesValue := true,
      help := "filename in which to record list of installed files" },
    { long := "always-unzip", negates := some "zip-ok", short := some 'Z',
      help := "don't install as a zipfile, no matter what" },
    { long := "site-dirs", short := some 'S', takesValue := true,
      help := "list of directories where .pth files work" },
    { long := "editable", short := some 'e',
      help := "Install specified packages in editable form" },
    { long := "no-deps", short := some 'N', help := "don't install dependencies" },
    { long := "allow-hosts", short := some 'H', takesValue := true,
      help := "pattern(s) that hostnames must match" },
    { long := "local-snapshots-ok", short := some 'l',
      help := "allow building eggs from local checkouts" },
    { long := "version", help := "print version information and exit" },
    { long := "no-find-links",
      help := "Don't load find-links defined in packages being installed" },
    { long := "user",
      help := "install in user site-package '/root/.local/lib/python3.11/site-packages'" },
    { long := "uninstall", short := some 'u', help := "Uninstall this source package" },
    { long := "egg-path", takesValue := true,
      help := "Set the path to be used in the .egg-link file" }]

def distInfoCommand : Command where
  name := "dist_info"
  description := "create a .dist-info directory"
  listing := .extra
  options := [
    { long := "egg-base", short := some 'e', takesValue := true,
      help := "directory containing .egg-info directories (default: top of the source " ++
        "tree) DEPRECATED: use --output-dir." },
    { long := "output-dir", short := some 'o', takesValue := true,
      help := "directory inside of which the .dist-info will becreated (default: top " ++
        "of the source tree)" },
    { long := "tag-date", short := some 'd',
      help := "Add date stamp (e.g. 20050528) to version number" },
    { long := "tag-build", short := some 'b', takesValue := true,
      help := "Specify explicit tag to add to version number" },
    { long := "no-date", negates := some "tag-date", short := some 'D',
      help := "Don't include date stamp [default]" },
    { long := "keep-egg-info", help := "*TRANSITIONAL* will be removed in the future" }]

def easyInstallCommand : Command where
  name := "easy_install"
  description := "Find/get/install Python packages"
  listing := .extra
  consumesArguments := true
  options := [
    { long := "prefix", takesValue := true, help := "installation prefix" },
    { long := "zip-ok", short := some 'z', help := "install package as a zipfile" },
    { long := "multi-version", short := some 'm',
      help := "make apps have to require() a version" },
    { long := "upgrade", short := some 'U',
      help := "force upgrade (searches PyPI for latest versions)" },
    { long := "install-dir", short := some 'd', takesValue := true,
      help := "install package to DIR" },
    { long := "script-dir", short := some 's', takesValue := true,
      help := "install scripts to DIR" },
    { long := "exclude-scripts", short := some 'x', help := "Don't install scripts" },
    { long := "always-copy", short := some 'a',
      help := "Copy all needed packages to install dir" },
    { long := "index-url", short := some 'i', takesValue := true,
      help := "base URL of Python Package Index" },
    { long := "find-links", short := some 'f', takesValue := true,
      help := "additional URL(s) to search for packages" },
    { long := "build-directory", short := some 'b', takesValue := true,
      help := "download/extract/build in DIR; keep the results" },
    { long := "optimize", short := some 'O', takesValue := true,
      help := "also compile with optimization: -O1 for \"python -O\", -O2 for \"python " ++
        "-OO\", and -O0 to disable [default: -O0]" },
    { long := "record", takesValue := true,
      help := "filename in which to record list of installed files" },
    { long := "always-unzip", negates := some "zip-ok", short := some 'Z',
      help := "don't install as a zipfile, no matter what" },
    { long := "site-dirs", short := some 'S', takesValue := true,
      help := "list of directories where .pth files work" },
    { long := "editable", short := some 'e',
      help := "Install specified packages in editable form" },
    { long := "no-deps", short := some 'N', help := "don't install dependencies" },
    { long := "allow-hosts", short := some 'H', takesValue := true,
      help := "pattern(s) that hostnames must match" },
    { long := "local-snapshots-ok", short := some 'l',
      help := "allow building eggs from local checkouts" },
    { long := "version", help := "print version information and exit" },
    { long := "no-find-links",
      help := "Don't load find-links defined in packages being installed" },
    { long := "user",
      help := "install in user site-package '/root/.local/lib/python3.11/site-packages'" }]

def editableWheelCommand : Command where
  name := "editable_wheel"
  description := "create a PEP 660 'editable' wheel"
  listing := .extra
  options := [
    { long := "dist-dir", short := some 'd', takesValue := true,
      help := "directory to put final built distributions in" },
    { long := "dist-info-dir", short := some 'I', takesValue := true,
      help := "path to a pre-build .dist-info directory" },
    { long := "mode", takesValue := true,
      help := "Possible editable installation modes:\n`lenient` (new files " ++
        "automatically added to the package - DEFAULT);\n`strict` (requires a " ++
        "new installation when files are added/removed); or\n`compat` (attempts " ++
        "to emulate `python setup.py develop` - DEPRECATED)." }]

def eggInfoCommand : Command where
  name := "egg_info"
  description := "create a distribution's .egg-info directory"
  listing := .extra
  options := [
    { long := "egg-base", short := some 'e', takesValue := true,
      help := "directory containing .egg-info directories (default: top of the source tree)" },
    { long := "tag-date", short := some 'd',
      help := "Add date stamp (e.g. 20050528) to version number" },
    { long := "tag-build", short := some 'b', takesValue := true,
      help := "Specify explicit tag to add to version number" },
    { long := "no-date", negates := some "tag-date", short := some 'D',
      help := "Don't include date stamp [default]" }]

def installEggInfoCommand : Command where
  name := "install_egg_info"
  description := "Install an .egg-info directory for the package"
  listing := .extra
  options := [
    { long := "install-dir", short := some 'd', takesValue := true,
      help := "directory to install to" }]

def rotateCommand : Command where
  name := "rotate"
  description := "delete older distributions, keeping N newest files"
  listing := .extra
  options := [
    { long := "match", short := some 'm', takesValue := true,
      help := "patterns to match (required)" },
    { long := "dist-dir", short := some 'd', takesValue := true,
      help := "directory where the distributions are" },
    { long := "keep", short := some 'k', takesValue := true,
      help := "number of matching distributions to keep" }]

def saveoptsCommand : Command where
  name := "saveopts"
  description := "save supplied options to setup.cfg or other config file"
  listing := .extra
  options := [
    { long := "global-config", short := some 'g',
      help := "save options to the site-wide distutils.cfg file" },
    { long := "user-config", short := some 'u',
      help := "save options to the current user's pydistutils.cfg file" },
    { long := "filename", short := some 'f', takesValue := true,
      help := "configuration file to use (default=setup.cfg)" }]

def setoptCommand : Command where
  name := "setopt"
  description := "set an option in setup.cfg or another config file"
  listing := .extra
  options := [
    { long := "command", short := some 'c', takesValue := true,
      help := "command to set an option for" },
    { long := "option", short := some 'o', takesValue := true, help := "option to set" },
    { long := "set-value", short := some 's', takesValue := true, help := "value of the option" },
    { long := "remove", short := some 'r', help := "remove (unset) the value" },
    { long := "global-config", short := some 'g',
      help := "save options to the site-wide distutils.cfg file" },
    { long := "user-config", short := some 'u',
      help := "save options to the current user's pydistutils.cfg file" },
    { long := "filename", short := some 'f', takesValue := true,
      help := "configuration file to use (default=setup.cfg)" }]

def testCommand : Command where
  name := "test"
  description := "run unit tests after in-place build (deprecated)"
  listing := .extra
  options := [
    { long := "test-module", short := some 'm', takesValue := true,
      help := "Run 'test_suite' in specified module" },
    { long := "test-suite", short := some 's', takesValue := true,
      help := "Run single test, case or suite (e.g. 'module.test_suite')" },
    { long := "test-runner", short := some 'r', takesValue := true, help := "Test runner to use" }]

def uploadDocsCommand : Command where
  name := "upload_docs"
  description := "Upload documentation to sites other than PyPi such as devpi"
  listing := .extra
  options := [
    { long := "repository", short := some 'r', takesValue := true,
      help := "url of repository [default: https://upload.pypi.org/legacy/]" },
    { long := "show-response", help := "display full response text from server" },
    { long := "upload-dir", takesValue := true, help := "directory to upload" }]

def configCommand : Command where
  name := "config"
  description := "prepare to build"
  listing := .unlisted
  options := [
    { long := "compiler", takesValue := true, help := "specify the compiler type" },
    { long := "cc", takesValue := true, help := "specify the compiler executable" },
    { long := "include-dirs", short := some 'I', takesValue := true,
      help := "list of directories to search for header files" },
    { long := "define", short := some 'D', takesValue := true,
      help := "C preprocessor macros to define" },
    { long := "undef", short := some 'U', takesValue := true,
      help := "C preprocessor macros to undefine" },
    { long := "libraries", short := some 'l', takesValue := true,
      help := "external C libraries to link with" },
    { long := "library-dirs", short := some 'L', takesValue := true,
      help := "directories to search for external C libraries" },
    { long := "noisy", help := "show every action (compile, link, run, ...) taken" },
    { long := "dump-source",
      help := "dump generated source files before attempting to compile them" }]

def commands : List Command := [
  buildCommand, buildPyCommand, buildExtCommand, buildClibCommand, buildScriptsCommand,
  cleanCommand, installCommand, installLibCommand, installHeadersCommand,
  installScriptsCommand, installDataCommand, sdistCommand, registerCommand, bdistCommand,
  bdistDumbCommand, bdistRpmCommand, checkCommand, uploadCommand, bdistWheelCommand,
  aliasCommand, bdistEggCommand, developCommand, distInfoCommand, easyInstallCommand,
  editableWheelCommand, eggInfoCommand, installEggInfoCommand, rotateCommand,
  saveoptsCommand, setoptCommand, testCommand, uploadDocsCommand, configCommand]

end AdocLint.Package
