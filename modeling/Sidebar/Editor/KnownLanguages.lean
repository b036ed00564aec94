import Sidebar.Editor.Language
import Sidebar.Editor.Likeness
import Sidebar.Editor.Mode

/-!
# Known languages

The languages that the editor knows, with the shapes of their file names. Of two that a file fits
equally well, the later one is taken.
-/

namespace Sidebar.Editor

/-- The languages that the editor knows, a weaker one before a stronger one. -/
def knownLanguages : List Language := [
  { mode := "abap", names := ["*.abap", "*.ABAP"] },
  { mode := "amdgpu", names := ["*.isa"] },
  { mode := "apl"
    names := ["*.apl", "*.aplf", "*.aplo", "*.apln", "*.aplc", "*.apli", "*.dyalog"] },
  { mode := "abnf", names := ["*.abnf"] },
  { mode := "actionscript3", names := ["*.as"] },
  { mode := "actionscript", names := ["*.as"] },
  { mode := "ada", names := ["*.adb", "*.ads", "*.ada"] },
  { mode := "adl", names := ["*.adl", "*.adls", "*.adlf", "*.adlx"] },
  { mode := "agda", names := ["*.agda"] },
  { mode := "aheui", names := ["*.aheui"] },
  { mode := "alloy", names := ["*.als"] },
  { mode := "ambienttalk", names := ["*.at"] },
  { mode := "ampl", names := ["*.run"] },
  { mode := "html+ng2", names := ["*.ng2"] },
  { mode := "antlr-actionscript", names := ["*.G", "*.g"] },
  { mode := "antlr-csharp", names := ["*.G", "*.g"] },
  { mode := "antlr-cpp", names := ["*.G", "*.g"] },
  { mode := "antlr-java", names := ["*.G", "*.g"] },
  { mode := "antlr-objc", names := ["*.G", "*.g"] },
  { mode := "antlr-perl", names := ["*.G", "*.g"] },
  { mode := "antlr-python", names := ["*.G", "*.g"] },
  { mode := "antlr-ruby", names := ["*.G", "*.g"] },
  { mode := "apacheconf", names := [".htaccess", "apache.conf", "apache2.conf"] },
  { mode := "applescript", names := ["*.applescript"] },
  { mode := "arduino", names := ["*.ino"], weight := 10 },
  { mode := "arrow", names := ["*.arw"] },
  { mode := "arturo", names := ["*.art"] },
  { mode := "asc"
    names := ["*.asc", "*.pem", "id_dsa", "id_ecdsa", "id_ecdsa_sk", "id_ed25519",
      "id_ed25519_sk", "id_rsa"] },
  { mode := "asn1", names := ["*.asn1"] },
  { mode := "aspectj", names := ["*.aj"] },
  { mode := "asymptote", names := ["*.asy"] },
  { mode := "augeas", names := ["*.aug"] },
  { mode := "autoit", names := ["*.au3"] },
  { mode := "autohotkey", names := ["*.ahk", "*.ahkl"] },
  { mode := "awk", names := ["*.awk"] },
  { mode := "bbcbasic", names := ["*.bbc"] },
  { mode := "bc", names := ["*.bc"] },
  { mode := "bqn", names := ["*.bqn"] },
  { mode := "bst", names := ["*.bst"] },
  { mode := "bare", names := ["*.bare"] },
  { mode := "bash"
    names := ["*.sh", "*.ksh", "*.bash", "*.ebuild", "*.eclass", "*.exheres-0", "*.exlib",
      "*.zsh", ".bashrc", "bashrc", ".bash_*", "bash_*", "zshrc", ".zshrc", ".kshrc", "kshrc",
      "PKGBUILD"]
    likeness := Likeness.ofShell },
  { mode := "console", names := ["*.sh-session", "*.shell-session"] },
  { mode := "batch", names := ["*.bat", "*.cmd"] },
  { mode := "bdd", names := ["*.feature"] },
  { mode := "befunge", names := ["*.befunge"] },
  { mode := "berry", names := ["*.be"] },
  { mode := "bibtex", names := ["*.bib"] },
  { mode := "blitzbasic", names := ["*.bb", "*.decls"] },
  { mode := "blitzmax", names := ["*.bmx"] },
  { mode := "blueprint", names := ["*.blp"] },
  { mode := "bnf", names := ["*.bnf"] },
  { mode := "boa", names := ["*.boa"] },
  { mode := "boo", names := ["*.boo"] },
  { mode := "boogie", names := ["*.bpl"] },
  { mode := "brainfuck", names := ["*.bf", "*.b"] },
  { mode := "bugs", names := ["*.bug"] },
  { mode := "camkes", names := ["*.camkes", "*.idl4"] },
  { mode := "c"
    names := ["*.c", "*.h", "*.idc", "*.xbm", "*.xpm"]
    weight := 10
    likeness := Likeness.ofC },
  { mode := "cmake", names := ["*.cmake", "CMakeLists.txt"] },
  { mode := "c-objdump", names := ["*.c-objdump"] },
  { mode := "cpsa", names := ["*.cpsa"] },
  { mode := "css+ul4", names := ["*.cssul4"] },
  { mode := "aspx-cs", names := ["*.aspx", "*.asax", "*.ascx", "*.ashx", "*.asmx", "*.axd"] },
  { mode := "csharp", names := ["*.cs"] },
  { mode := "ca65", names := ["*.s"] },
  { mode := "cadl", names := ["*.cadl"] },
  { mode := "capdl", names := ["*.cdl"] },
  { mode := "capnp", names := ["*.capnp"] },
  { mode := "carbon", names := ["*.carbon"] },
  { mode := "cbmbas", names := ["*.bas"] },
  { mode := "cddl", names := ["*.cddl"] },
  { mode := "ceylon", names := ["*.ceylon"] },
  { mode := "cfengine3", names := ["*.cf"] },
  { mode := "chaiscript", names := ["*.chai"] },
  { mode := "chapel", names := ["*.chpl"] },
  { mode := "charmci", names := ["*.ci"], weight := 10 },
  { mode := "cheetah", names := ["*.tmpl", "*.spt"] },
  { mode := "cirru", names := ["*.cirru"] },
  { mode := "clay", names := ["*.clay"] },
  { mode := "clean", names := ["*.icl", "*.dcl"] },
  { mode := "clojure", names := ["*.clj", "*.cljc"] },
  { mode := "clojurescript", names := ["*.cljs"] },
  { mode := "cobolfree", names := ["*.cbl", "*.CBL"] },
  { mode := "cobol", names := ["*.cob", "*.COB", "*.cpy", "*.CPY"] },
  { mode := "codeql", names := ["*.ql", "*.qll"] },
  { mode := "coffeescript", names := ["*.coffee"] },
  { mode := "cfc", names := ["*.cfc"] },
  { mode := "cfm", names := ["*.cfm", "*.cfml"] },
  { mode := "comal", names := ["*.cml", "*.comal"] },
  { mode := "common-lisp", names := ["*.cl", "*.lisp"] },
  { mode := "componentpascal", names := ["*.cp", "*.cps"] },
  { mode := "cplint", names := ["*.ecl", "*.prolog", "*.pro", "*.pl", "*.P", "*.lpad", "*.cpl"] },
  { mode := "cpp"
    names := ["*.cpp", "*.hpp", "*.c++", "*.h++", "*.cc", "*.hh", "*.cxx", "*.hxx", "*.C", "*.H",
      "*.cp", "*.CPP", "*.tpp", "*.cppm", "*.ixx", "*.mxx"]
    weight := 10
    likeness := Likeness.ofCpp },
  { mode := "cpp-objdump", names := ["*.cpp-objdump", "*.c++-objdump", "*.cxx-objdump"] },
  { mode := "crmsh", names := ["*.crmsh", "*.pcmk"] },
  { mode := "croc", names := ["*.croc"] },
  { mode := "cryptol", names := ["*.cry"] },
  { mode := "cr", names := ["*.cr"] },
  { mode := "csound-document", names := ["*.csd"] },
  { mode := "csound", names := ["*.orc", "*.udo"] },
  { mode := "csound-score", names := ["*.sco"] },
  { mode := "css+django", names := ["*.css.j2", "*.css.jinja2"] },
  { mode := "css", names := ["*.css"] },
  { mode := "cuda", names := ["*.cu", "*.cuh"], weight := 10 },
  { mode := "cypher", names := ["*.cyp", "*.cypher"] },
  { mode := "cython", names := ["*.pyx", "*.pxd", "*.pxi"] },
  { mode := "d", names := ["*.d", "*.di"] },
  { mode := "d-objdump", names := ["*.d-objdump"] },
  { mode := "dpatch", names := ["*.dpatch", "*.darcspatch"] },
  { mode := "dart", names := ["*.dart"] },
  { mode := "dasm16", names := ["*.dasm16", "*.dasm"] },
  { mode := "dax", names := ["*.dax"] },
  { mode := "debcontrol", names := ["control"] },
  { mode := "debian.sources", names := ["*.sources"] },
  { mode := "delphi", names := ["*.pas", "*.dpr"] },
  { mode := "desktop", names := ["*.desktop"] },
  { mode := "devicetree", names := ["*.dts", "*.dtsi"] },
  { mode := "dg", names := ["*.dg"] },
  { mode := "diff", names := ["*.diff", "*.patch"], likeness := Likeness.ofDiff },
  { mode := "zone", names := ["*.zone"] },
  { mode := "docker", names := ["Dockerfile", "*.docker"] },
  { mode := "dtd", names := ["*.dtd"] },
  { mode := "duel", names := ["*.duel", "*.jbst"] },
  { mode := "dylan-console", names := ["*.dylan-console"] },
  { mode := "dylan", names := ["*.dylan", "*.dyl", "*.intr"] },
  { mode := "dylan-lid", names := ["*.lid", "*.hdp"] },
  { mode := "ecl", names := ["*.ecl"] },
  { mode := "ec", names := ["*.ec", "*.eh"], weight := 10 },
  { mode := "earl-grey", names := ["*.eg"] },
  { mode := "easytrieve", names := ["*.ezt", "*.mac"] },
  { mode := "ebnf", names := ["*.ebnf"] },
  { mode := "eiffel", names := ["*.e"] },
  { mode := "elixir", names := ["*.ex", "*.eex", "*.exs", "*.leex"] },
  { mode := "elm", names := ["*.elm"] },
  { mode := "elpi", names := ["*.elpi"] },
  { mode := "emacs-lisp", names := ["*.el"] },
  { mode := "email", names := ["*.eml"] },
  { mode := "erlang", names := ["*.erl", "*.hrl", "*.es", "*.escript"] },
  { mode := "erl", names := ["*.erl-sh"] },
  { mode := "evoque", names := ["*.evoque"] },
  { mode := "execline", names := ["*.exec"] },
  { mode := "ezhil", names := ["*.n"] },
  { mode := "fsharp", names := ["*.fs", "*.fsi", "*.fsx"] },
  { mode := "fstar", names := ["*.fst", "*.fsti"] },
  { mode := "factor", names := ["*.factor"] },
  { mode := "fancy", names := ["*.fy", "*.fancypack"] },
  { mode := "fan", names := ["*.fan"] },
  { mode := "felix", names := ["*.flx", "*.flxh"] },
  { mode := "fennel", names := ["*.fnl", "*.fnlm"] },
  { mode := "fift", names := ["*.fif"] },
  { mode := "fish", names := ["*.fish", "*.load"] },
  { mode := "floscript", names := ["*.flo"] },
  { mode := "forth", names := ["*.frt", "*.fs"] },
  { mode := "fortranfixed", names := ["*.f", "*.F"] },
  { mode := "fortran", names := ["*.f03", "*.f90", "*.F03", "*.F90"] },
  { mode := "foxpro", names := ["*.PRG", "*.prg"] },
  { mode := "freefem", names := ["*.edp"], weight := 10 },
  { mode := "func", names := ["*.fc", "*.func"] },
  { mode := "futhark", names := ["*.fut"] },
  { mode := "gap-console", names := ["*.tst"] },
  { mode := "gap", names := ["*.g", "*.gd", "*.gi", "*.gap"] },
  { mode := "gdscript", names := ["*.gd"] },
  { mode := "glsl", names := ["*.vert", "*.frag", "*.geo"] },
  { mode := "gsql", names := ["*.gsql"] },
  { mode := "gas", names := ["*.s", "*.S"] },
  { mode := "gcode", names := ["*.gcode"] },
  { mode := "genshi", names := ["*.kid"] },
  { mode := "pot", names := ["*.pot", "*.po"] },
  { mode := "gherkin", names := ["*.feature"] },
  { mode := "gleam", names := ["*.gleam"] },
  { mode := "gnuplot", names := ["*.plot", "*.plt"] },
  { mode := "go", names := ["*.go"] },
  { mode := "golo", names := ["*.golo"] },
  { mode := "gooddata-cl", names := ["*.gdc"] },
  { mode := "googlesql", names := ["*.googlesql", "*.googlesql.sql"] },
  { mode := "gosu", names := ["*.gs", "*.gsx", "*.gsp", "*.vark"] },
  { mode := "gst", names := ["*.gst"] },
  { mode := "graphql", names := ["*.graphql"] },
  { mode := "graphviz", names := ["*.gv", "*.dot"] },
  { mode := "groff"
    names := ["*.1", "*.2", "*.3", "*.4", "*.5", "*.6", "*.7", "*.8", "*.9", "*.man", "*.1p",
      "*.3pm"] },
  { mode := "groovy", names := ["*.groovy", "*.gradle"] },
  { mode := "hlsl", names := ["*.hlsl", "*.hlsli"] },
  { mode := "html+ul4", names := ["*.htmlul4"] },
  { mode := "haml", names := ["*.haml"] },
  { mode := "html+handlebars", names := ["*.handlebars", "*.hbs"] },
  { mode := "hare", names := ["*.ha"] },
  { mode := "haskell", names := ["*.hs"] },
  { mode := "haxe", names := ["*.hx", "*.hxsl"] },
  { mode := "hsail", names := ["*.hsail"] },
  { mode := "hspec", names := ["*Spec.hs"] },
  { mode := "html+django"
    names := ["*.html.j2", "*.htm.j2", "*.xhtml.j2", "*.html.jinja2", "*.htm.jinja2",
      "*.xhtml.jinja2"] },
  { mode := "html", names := ["*.html", "*.htm", "*.xhtml", "*.xslt"] },
  { mode := "html+php", names := ["*.phtml"] },
  { mode := "haxeml", names := ["*.hxml"] },
  { mode := "hylang", names := ["*.hy"] },
  { mode := "hybris", names := ["*.hyb"] },
  { mode := "idl", names := ["*.pro"] },
  { mode := "icon", names := ["*.icon", "*.ICON"] },
  { mode := "idris", names := ["*.idr"] },
  { mode := "igor", names := ["*.ipf"] },
  { mode := "inform6", names := ["*.inf"] },
  { mode := "i6t", names := ["*.i6t"] },
  { mode := "inform7", names := ["*.ni", "*.i7x"] },
  { mode := "ini"
    names := ["*.ini", "*.cfg", "*.inf", ".editorconfig"]
    likeness := Likeness.ofIni },
  { mode := "io", names := ["*.io"] },
  { mode := "ioke", names := ["*.ik"] },
  { mode := "irc", names := ["*.weechatlog"] },
  { mode := "isabelle", names := ["*.thy"] },
  { mode := "j", names := ["*.ijs"] },
  { mode := "jmespath", names := ["*.jp"] },
  { mode := "jslt", names := ["*.jslt"] },
  { mode := "jags", names := ["*.jag", "*.bug"] },
  { mode := "janet", names := ["*.janet", "*.jdn"] },
  { mode := "jasmin", names := ["*.j"] },
  { mode := "java", names := ["*.java"] },
  { mode := "javascript+django", names := ["*.js.j2", "*.js.jinja2"] },
  { mode := "javascript", names := ["*.js", "*.jsm", "*.mjs", "*.cjs"] },
  { mode := "js+ul4", names := ["*.jsul4"] },
  { mode := "jcl", names := ["*.jcl"] },
  { mode := "jsgf", names := ["*.jsgf"] },
  { mode := "json5", names := ["*.json5"] },
  { mode := "jsonld", names := ["*.jsonld"] },
  { mode := "json"
    names := ["*.json", "*.jsonl", "*.ndjson", "Pipfile.lock", "*.module", "*.xc",
      "package-lock.json"] },
  { mode := "jsonnet", names := ["*.jsonnet", "*.libsonnet"] },
  { mode := "jsp", names := ["*.jsp"] },
  { mode := "jsx", names := ["*.jsx", "*.react"] },
  { mode := "julia", names := ["*.jl"] },
  { mode := "juttle", names := ["*.juttle"] },
  { mode := "k", names := ["*.k"] },
  { mode := "kal", names := ["*.kal"] },
  { mode := "kconfig"
    names := ["Kconfig*", "*Config.in*", "external.in*", "standard-modules.in"] },
  { mode := "kmsg", names := ["*.kmsg", "*.dmesg"] },
  { mode := "koka", names := ["*.kk", "*.kki"] },
  { mode := "kotlin", names := ["*.kt", "*.kts"] },
  { mode := "kuin", names := ["*.kn"] },
  { mode := "kql", names := ["*.kql", "*.kusto", ".csl"] },
  { mode := "lsl", names := ["*.lsl"] },
  { mode := "lasso", names := ["*.lasso", "*.lasso8", "*.lasso9"] },
  { mode := "ldapconf", names := [".ldaprc", "ldaprc", "ldap.conf"] },
  { mode := "ldif", names := ["*.ldif"] },
  { mode := "lean", names := ["*.lean"] },
  { mode := "lean4", names := ["*.lean"] },
  { mode := "less", names := ["*.less"] },
  { mode := "lighttpd", names := ["lighttpd.conf"] },
  { mode := "lilypond", names := ["*.ly"] },
  { mode := "limbo", names := ["*.b"] },
  { mode := "liquid", names := ["*.liquid"] },
  { mode := "literate-agda", names := ["*.lagda"] },
  { mode := "literate-cryptol", names := ["*.lcry"] },
  { mode := "literate-haskell", names := ["*.lhs"] },
  { mode := "literate-idris", names := ["*.lidr"] },
  { mode := "livescript", names := ["*.ls"] },
  { mode := "llvm", names := ["*.ll"] },
  { mode := "llvm-mir", names := ["*.mir"] },
  { mode := "logos", names := ["*.x", "*.xi", "*.xm", "*.xmi"], weight := 25 },
  { mode := "logtalk", names := ["*.lgt", "*.logtalk"] },
  { mode := "lua", names := ["*.lua", "*.wlua"] },
  { mode := "luau", names := ["*.luau"] },
  { mode := "mcfunction", names := ["*.mcfunction"] },
  { mode := "mcschema", names := ["*.mcschema"] },
  { mode := "mips", names := ["*.mips", "*.MIPS"] },
  { mode := "moocode", names := ["*.moo"] },
  { mode := "macaulay2", names := ["*.m2"] },
  { mode := "make"
    names := ["*.mak", "*.mk", "Makefile", "makefile", "Makefile.*", "GNUmakefile"]
    likeness := Likeness.ofMake },
  { mode := "mako", names := ["*.mao"] },
  { mode := "maple", names := ["*.mpl", "*.mi", "*.mm"] },
  { mode := "maql", names := ["*.maql"] },
  { mode := "markdown", names := ["*.md", "*.markdown"] },
  { mode := "mask", names := ["*.mask"] },
  { mode := "mason", names := ["*.m", "*.mhtml", "*.mc", "*.mi", "autohandler", "dhandler"] },
  { mode := "mathematica", names := ["*.nb", "*.cdf", "*.nbp", "*.ma", "*.wl", "*.wls"] },
  { mode := "matlab", names := ["*.m"] },
  { mode := "maxima", names := ["*.mac", "*.max"] },
  { mode := "meson", names := ["meson.build", "meson.options", "meson_options.txt"] },
  { mode := "miniscript", names := ["*.ms"] },
  { mode := "modelica", names := ["*.mo"] },
  { mode := "modula2", names := ["*.def", "*.mod"] },
  { mode := "mojo", names := ["*.mojo", "*.🔥"] },
  { mode := "monkey", names := ["*.monkey"] },
  { mode := "monte", names := ["*.mt"] },
  { mode := "moonscript", names := ["*.moon"] },
  { mode := "mosel", names := ["*.mos"] },
  { mode := "css+mozpreproc", names := ["*.css.in"] },
  { mode := "javascript+mozpreproc", names := ["*.js.in"] },
  { mode := "xul+mozpreproc", names := ["*.xul.in"] },
  { mode := "mql", names := ["*.mq4", "*.mq5", "*.mqh"], weight := 10 },
  { mode := "mscgen", names := ["*.msc"] },
  { mode := "mupad", names := ["*.mu"] },
  { mode := "mxml", names := ["*.mxml"] },
  { mode := "myghty", names := ["*.myt", "autodelegate"] },
  { mode := "ncl", names := ["*.ncl"] },
  { mode := "nsis", names := ["*.nsi", "*.nsh"] },
  { mode := "nasm", names := ["*.asm", "*.ASM", "*.nasm"], weight := 100 },
  { mode := "objdump-nasm", names := ["*.objdump-intel"] },
  { mode := "nemerle", names := ["*.n"] },
  { mode := "nesc", names := ["*.nc"], weight := 10 },
  { mode := "nestedtext", names := ["*.nt"] },
  { mode := "newlisp", names := ["*.lsp", "*.nl", "*.kif"] },
  { mode := "newspeak", names := ["*.ns2"] },
  { mode := "nginx", names := ["nginx.conf"] },
  { mode := "nimrod", names := ["*.nim", "*.nimrod"] },
  { mode := "nit", names := ["*.nit"] },
  { mode := "nixos", names := ["*.nix"] },
  { mode := "nusmv", names := ["*.smv"] },
  { mode := "numba_ir", names := ["*.numba_ir"] },
  { mode := "objdump", names := ["*.objdump"] },
  { mode := "objective-c"
    names := ["*.m", "*.h"]
    weight := 5
    likeness := Likeness.ofObjectiveC },
  { mode := "objective-c++"
    names := ["*.mm", "*.hh"]
    weight := 5
    likeness := Likeness.ofObjectiveC },
  { mode := "objective-j", names := ["*.j"] },
  { mode := "ocaml", names := ["*.ml", "*.mli", "*.mll", "*.mly"] },
  { mode := "octave", names := ["*.m"] },
  { mode := "odin", names := ["*.odin"] },
  { mode := "omg-idl", names := ["*.idl", "*.pidl"], weight := 10 },
  { mode := "ooc", names := ["*.ooc"] },
  { mode := "opa", names := ["*.opa"] },
  { mode := "openedge", names := ["*.p", "*.cls"] },
  { mode := "openscad", names := ["*.scad"] },
  { mode := "org", names := ["*.org"] },
  { mode := "pacmanconf", names := ["pacman.conf"] },
  { mode := "pan", names := ["*.pan"] },
  { mode := "parasail", names := ["*.psi", "*.psl"] },
  { mode := "pawn", names := ["*.p", "*.pwn", "*.inc"] },
  { mode := "pddl", names := ["*.pddl"] },
  { mode := "peg", names := ["*.peg"] },
  { mode := "perl6"
    names := ["*.pl", "*.pm", "*.nqp", "*.p6", "*.6pl", "*.p6l", "*.pl6", "*.6pm", "*.p6m",
      "*.pm6", "*.t", "*.raku", "*.rakumod", "*.rakutest", "*.rakudoc"] },
  { mode := "perl", names := ["*.pl", "*.pm", "*.t", "*.perl"] },
  { mode := "phix", names := ["*.exw"] },
  { mode := "php", names := ["*.php", "*.php3", "*.php4", "*.php5", "*.inc"] },
  { mode := "pig", names := ["*.pig"] },
  { mode := "pike", names := ["*.pike", "*.pmod"], weight := 10 },
  { mode := "pkgconfig", names := ["*.pc"] },
  { mode := "pointless", names := ["*.ptls"] },
  { mode := "pony", names := ["*.pony"] },
  { mode := "portugol", names := ["*.alg", "*.portugol"] },
  { mode := "postscript", names := ["*.ps", "*.eps"] },
  { mode := "postgres-explain", names := ["*.explain"] },
  { mode := "pov", names := ["*.pov", "*.inc"] },
  { mode := "powershell", names := ["*.ps1", "*.psm1"] },
  { mode := "praat", names := ["*.praat", "*.proc", "*.psc"] },
  { mode := "procfile", names := ["Procfile"] },
  { mode := "prolog", names := ["*.ecl", "*.prolog", "*.pro", "*.pl"] },
  { mode := "promql", names := ["*.promql"] },
  { mode := "promela"
    names := ["*.pml", "*.prom", "*.prm", "*.promela", "*.pr", "*.pm"]
    weight := 10 },
  { mode := "properties", names := ["*.properties"] },
  { mode := "protobuf", names := ["*.proto"] },
  { mode := "prql", names := ["*.prql"] },
  { mode := "ptx", names := ["*.ptx"] },
  { mode := "pug", names := ["*.pug", "*.jade"] },
  { mode := "puppet", names := ["*.pp"] },
  { mode := "pypylog", names := ["*.pypylog"] },
  { mode := "py2tb", names := ["*.py2tb"] },
  { mode := "python"
    names := ["*.py", "*.pyw", "*.pyi", "*.jy", "*.sage", "*.sc", "SConstruct", "SConscript",
      "*.bzl", "BUCK", "BUILD", "BUILD.bazel", "WORKSPACE", "*.tac", "*.pye"]
    likeness := Likeness.ofPython },
  { mode := "pytb", names := ["*.pytb", "*.py3tb"] },
  { mode := "py+ul4", names := ["*.pyul4"] },
  { mode := "qbasic", names := ["*.BAS", "*.bas"] },
  { mode := "q", names := ["*.q"] },
  { mode := "qvto", names := ["*.qvto"] },
  { mode := "qlik", names := ["*.qvs", "*.qvw"] },
  { mode := "qml", names := ["*.qml", "*.qbs"] },
  { mode := "rconsole", names := ["*.Rout"] },
  { mode := "rng-compact", names := ["*.rnc"] },
  { mode := "spec", names := ["*.spec"] },
  { mode := "racket", names := ["*.rkt", "*.rktd", "*.rktl"] },
  { mode := "ragel-c", names := ["*.rl"] },
  { mode := "ragel-cpp", names := ["*.rl"] },
  { mode := "ragel-d", names := ["*.rl"] },
  { mode := "ragel-em", names := ["*.rl"] },
  { mode := "ragel-java", names := ["*.rl"] },
  { mode := "ragel-objc", names := ["*.rl"] },
  { mode := "ragel-ruby", names := ["*.rl"] },
  { mode := "rd", names := ["*.Rd"] },
  { mode := "reasonml", names := ["*.re", "*.rei"] },
  { mode := "rebol", names := ["*.r", "*.r3", "*.reb"] },
  { mode := "red", names := ["*.red", "*.reds"] },
  { mode := "redcode", names := ["*.cw"] },
  { mode := "registry", names := ["*.reg"] },
  { mode := "rego", names := ["*.rego"] },
  { mode := "rell", names := ["*.rell"] },
  { mode := "rexx", names := ["*.rexx", "*.rex", "*.rx", "*.arexx"] },
  { mode := "rhtml", names := ["*.rhtml"] },
  { mode := "ride", names := ["*.ride"] },
  { mode := "rita", names := ["*.rita"] },
  { mode := "roboconf-graph", names := ["*.graph"] },
  { mode := "roboconf-instances", names := ["*.instances"] },
  { mode := "robotframework", names := ["*.robot", "*.resource"] },
  { mode := "coq", names := ["*.v"] },
  { mode := "rql", names := ["*.rql"] },
  { mode := "rsl", names := ["*.rsl"] },
  { mode := "restructuredtext", names := ["*.rst", "*.rest"], likeness := Likeness.ofRst },
  { mode := "trafficscript", names := ["*.rts"] },
  { mode := "ruby"
    names := ["*.rb", "*.rbw", "Rakefile", "*.rake", "*.gemspec", "*.rbx", "*.duby", "Gemfile",
      "Vagrantfile"]
    likeness := Likeness.ofRuby },
  { mode := "rust", names := ["*.rs", "*.rs.in"] },
  { mode := "sas", names := ["*.SAS", "*.sas"] },
  { mode := "splus", names := ["*.S", "*.R", ".Rhistory", ".Rprofile", ".Renviron"] },
  { mode := "sml", names := ["*.sml", "*.sig", "*.fun"] },
  { mode := "snbt", names := ["*.snbt"] },
  { mode := "sarl", names := ["*.sarl"] },
  { mode := "sass", names := ["*.sass"] },
  { mode := "savi", names := ["*.savi"] },
  { mode := "scala", names := ["*.scala"] },
  { mode := "scaml", names := ["*.scaml"] },
  { mode := "scdoc", names := ["*.scd", "*.scdoc"] },
  { mode := "scheme", names := ["*.scm", "*.ss"] },
  { mode := "scilab", names := ["*.sci", "*.sce", "*.tst"] },
  { mode := "scss", names := ["*.scss"] },
  { mode := "sed", names := ["*.sed", "*.gsed", "*.ssed"] },
  { mode := "shexc", names := ["*.shex"] },
  { mode := "shen", names := ["*.shen"] },
  { mode := "sieve", names := ["*.siv", "*.sieve"] },
  { mode := "silver", names := ["*.sil", "*.vpr"] },
  { mode := "singularity", names := ["*.def", "Singularity"] },
  { mode := "slash", names := ["*.sla"] },
  { mode := "slim", names := ["*.slim"] },
  { mode := "slurm", names := ["*.sl"] },
  { mode := "smali", names := ["*.smali"] },
  { mode := "smalltalk", names := ["*.st"] },
  { mode := "sgf", names := ["*.sgf"] },
  { mode := "smarty", names := ["*.tpl"] },
  { mode := "smithy", names := ["*.smithy"] },
  { mode := "snobol", names := ["*.snobol"] },
  { mode := "snowball", names := ["*.sbl"] },
  { mode := "solidity", names := ["*.sol"] },
  { mode := "androidbp", names := ["Android.bp"] },
  { mode := "sophia", names := ["*.aes"] },
  { mode := "sp", names := ["*.sp"] },
  { mode := "debsources", names := ["sources.list"] },
  { mode := "sparql", names := ["*.rq", "*.sparql"] },
  { mode := "spice", names := ["*.spice"] },
  { mode := "sql+jinja", names := ["*.sql", "*.sql.j2", "*.sql.jinja2"] },
  { mode := "sql", names := ["*.sql"] },
  { mode := "sqlite3", names := ["*.sqlite3-console"] },
  { mode := "squidconf", names := ["squid.conf"] },
  { mode := "srcinfo", names := [".SRCINFO"] },
  { mode := "ssp", names := ["*.ssp"] },
  { mode := "stan", names := ["*.stan"] },
  { mode := "stata", names := ["*.do", "*.ado"] },
  { mode := "supercollider", names := ["*.sc", "*.scd"] },
  { mode := "swift", names := ["*.swift"] },
  { mode := "swig", names := ["*.swg", "*.i"], weight := 4 },
  { mode := "systemverilog", names := ["*.sv", "*.svh"] },
  { mode := "systemd"
    names := ["*.service", "*.socket", "*.device", "*.mount", "*.automount", "*.swap", "*.target",
      "*.path", "*.timer", "*.slice", "*.scope"] },
  { mode := "tap", names := ["*.tap"] },
  { mode := "tnt", names := ["*.tnt"] },
  { mode := "toml", names := ["*.toml", "Pipfile", "poetry.lock"] },
  { mode := "tablegen", names := ["*.td"] },
  { mode := "tact", names := ["*.tact"] },
  { mode := "tads3", names := ["*.t"] },
  { mode := "tal", names := ["*.tal"] },
  { mode := "tasm", names := ["*.asm", "*.ASM", "*.tasm"] },
  { mode := "tcl", names := ["*.tcl", "*.rvt"] },
  { mode := "tcsh", names := ["*.tcsh", "*.csh"] },
  { mode := "tea", names := ["*.tea"] },
  { mode := "teal", names := ["*.teal"] },
  { mode := "teratermmacro", names := ["*.ttl"] },
  { mode := "termcap", names := ["termcap", "termcap.src"] },
  { mode := "terminfo", names := ["terminfo", "terminfo.src"] },
  { mode := "terraform", names := ["*.tf", "*.hcl"] },
  { mode := "tex", names := ["*.tex", "*.aux", "*.toc"], likeness := Likeness.ofTex },
  { mode := plainMode, names := ["*.txt"], weight := 1, likeness := fun _ => 1 },
  { mode := "ti", names := ["*.ti"] },
  { mode := "thrift", names := ["*.thrift"] },
  { mode := "tid", names := ["*.tid"] },
  { mode := "tlb", names := ["*.tlb"] },
  { mode := "todotxt", names := ["todo.txt", "*.todotxt"] },
  { mode := "tsql", names := ["*.sql"] },
  { mode := "treetop", names := ["*.treetop", "*.tt"] },
  { mode := "tsx", names := ["*.tsx"], weight := 50 },
  { mode := "turtle", names := ["*.ttl"] },
  { mode := "html+twig", names := ["*.twig"] },
  { mode := "typescript", names := ["*.ts"], weight := 50 },
  { mode := "typoscript", names := ["*.typoscript"] },
  { mode := "typst", names := ["*.typ"] },
  { mode := "ul4", names := ["*.ul4"] },
  { mode := "ucode", names := ["*.u", "*.u1", "*.u2"] },
  { mode := "unicon", names := ["*.icn"] },
  { mode := "urbiscript", names := ["*.u"] },
  { mode := "usd", names := ["*.usd", "*.usda"] },
  { mode := "vbscript", names := ["*.vbs", "*.VBS"] },
  { mode := "vcl", names := ["*.vcl"] },
  { mode := "vgl", names := ["*.rpf"] },
  { mode := "vala", names := ["*.vala", "*.vapi"] },
  { mode := "aspx-vb", names := ["*.aspx", "*.asax", "*.ascx", "*.ashx", "*.asmx", "*.axd"] },
  { mode := "vb.net", names := ["*.vb", "*.bas"] },
  { mode := "velocity", names := ["*.vm", "*.fhtml"] },
  { mode := "verifpal", names := ["*.vp"] },
  { mode := "verilog", names := ["*.v"] },
  { mode := "vhdl", names := ["*.vhdl", "*.vhd"] },
  { mode := "vim"
    names := ["*.vim", ".vimrc", ".exrc", ".gvimrc", "_vimrc", "_exrc", "_gvimrc", "vimrc",
      "gvimrc"] },
  { mode := "visualprologgrammar", names := ["*.vipgrm"] },
  { mode := "visualprolog", names := ["*.pro", "*.cl", "*.i", "*.pack", "*.ph"] },
  { mode := "vue", names := ["*.vue"] },
  { mode := "vyper", names := ["*.vy"] },
  { mode := "wdiff", names := ["*.wdiff"] },
  { mode := "wast", names := ["*.wat", "*.wast"] },
  { mode := "webidl", names := ["*.webidl"] },
  { mode := "wgsl", names := ["*.wgsl"] },
  { mode := "whiley", names := ["*.whiley"] },
  { mode := "wowtoc", names := ["*.toc"] },
  { mode := "wren", names := ["*.wren"] },
  { mode := "x10", names := ["*.x10"] },
  { mode := "xml+ul4", names := ["*.xmlul4"] },
  { mode := "xquery", names := ["*.xqy", "*.xquery", "*.xq", "*.xql", "*.xqm"] },
  { mode := "xml+django", names := ["*.xml.j2", "*.xml.jinja2"] },
  { mode := "xml"
    names := ["*.xml", "*.xsl", "*.rss", "*.xslt", "*.xsd", "*.wsdl", "*.wsf", "*.xbrl", "*.pom"] },
  { mode := "xorg.conf", names := ["xorg.conf"] },
  { mode := "xpp", names := ["*.xpp"] },
  { mode := "xslt", names := ["*.xsl", "*.xslt", "*.xpl"] },
  { mode := "xtend", names := ["*.xtend"] },
  { mode := "extempore", names := ["*.xtm"] },
  { mode := "yaml+jinja"
    names := ["*.sls", "*.yaml.j2", "*.yml.j2", "*.yaml.jinja2", "*.yml.jinja2"] },
  { mode := "yaml", names := ["*.yaml", "*.yml"] },
  { mode := "yang", names := ["*.yang"] },
  { mode := "yara", names := ["*.yar"] },
  { mode := "zeek", names := ["*.zeek", "*.bro"] },
  { mode := "zephir", names := ["*.zep"] },
  { mode := "zig", names := ["*.zig"] },
  { mode := "ansys", names := ["*.ans"] }]

/-- The best of the known languages that a name fits. Names alone decide unless they fit two. -/
def knownBest? (name content : String) : Option Language :=
  Language.best? name content (knownLanguages.filter (·.fits name))

theorem mem_of_knownBest?_eq_some {name content : String} {language : Language}
    (h : knownBest? name content = some language) : language ∈ knownLanguages :=
  (List.mem_filter.mp (Language.mem_of_best?_eq_some h)).1

/-- The look-up among the known languages. -/
def knownLexers : Lexers where
  find? name content := (knownBest? name content).map fun language => [language.mode]
  find?_ne_image := by
    intro name content aliases h
    have hnone : ∀ language ∈ knownLanguages, language.mode ≠ imageMode := by decide +kernel
    obtain ⟨language, hbest, rfl⟩ := Option.map_eq_some_iff.mp h
    simpa using hnone language (mem_of_knownBest?_eq_some hbest)

end Sidebar.Editor
