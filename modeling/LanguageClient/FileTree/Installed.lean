import LanguageClient.FileTree

/-!
The files of a system on which nothing has been put yet: its directories, its devices and its
programs. Scripts and servers find their commands here.
-/
namespace LanguageClient.FileTree

def installedPrograms : List String :=
  ["[", "arch", "awk", "base32", "base64", "basename", "bash", "bzip2", "cat", "chgrp", "chmod",
   "chown", "cksum", "cmp", "comm", "cp", "csplit", "cut", "dash", "date", "dd", "df", "diff",
   "dir", "dircolors", "dirname", "du", "echo", "env", "expand", "expr", "factor", "false",
   "file", "find", "fmt", "fold", "getconf", "getent", "grep", "egrep", "fgrep", "groups", "gzip",
   "gunzip", "head", "hostid", "hostname", "id", "install", "join", "kill", "link", "ln", "locale",
   "logger", "login", "logname", "ls", "md5sum", "mkdir", "mkfifo", "mknod", "mktemp", "more",
   "mount", "mv", "nice", "nl", "nohup", "nproc", "numfmt", "od", "paste", "pathchk", "perl",
   "pidof", "pinky", "pr", "printenv", "printf", "ps", "ptx", "pwd", "readlink", "realpath",
   "renice", "rev", "rm", "rmdir", "runcon", "script", "sed", "seq", "setsid", "sha1sum", "sha224sum",
   "sha256sum", "sha384sum", "sha512sum", "shred", "shuf", "sleep", "sort", "split", "stat",
   "stdbuf", "stty", "su", "sum", "sync", "tac", "tail", "tar", "tee", "test", "timeout", "touch",
   "tr", "true", "truncate", "tsort", "tty", "umount", "uname", "unexpand", "uniq", "unlink",
   "uptime", "users", "vdir", "wc", "which", "who", "whoami", "xargs", "yes", "zcat"]

def installedDirectories : List (List String) :=
  [["boot"], ["dev"], ["etc"], ["home"], ["media"], ["mnt"], ["opt"], ["proc"], ["root"], ["run"],
   ["srv"], ["sys"], ["tmp"], ["usr"], ["usr", "bin"], ["usr", "games"], ["usr", "include"],
   ["usr", "lib"], ["usr", "lib64"], ["usr", "libexec"], ["usr", "local"], ["usr", "local", "bin"],
   ["usr", "local", "lib"], ["usr", "local", "sbin"], ["usr", "local", "share"], ["usr", "sbin"],
   ["usr", "share"], ["usr", "src"], ["var"], ["var", "lib"], ["var", "log"], ["var", "tmp"]]

def installedLinks : List (List String × String) :=
  [(["bin"], "usr/bin"), (["sbin"], "usr/sbin"), (["lib"], "usr/lib"), (["lib64"], "usr/lib64"),
   (["usr", "bin", "sh"], "dash"),
   (["var", "run"], "/run"), (["dev", "fd"], "/proc/self/fd")]

def installedDevices : List (List String × Device) :=
  [(["dev", "null"], .null), (["dev", "zero"], .zero), (["dev", "full"], .full),
   (["dev", "stdin"], .stream 0), (["dev", "stdout"], .stream 1), (["dev", "stderr"], .stream 2)]

/-- Files of the system that are no programs. What is in them is not known. -/
def installedFiles : List (List String) :=
  [["etc", "group"], ["etc", "hostname"], ["etc", "hosts"], ["etc", "passwd"], ["etc", "profile"]]

def installed : FileTree where
  entries :=
    installedDirectories.map (fun names => (names, .directory)) ++
    installedLinks.map (fun (names, target) => (names, .link target)) ++
    installedDevices.map (fun (names, device) => (names, .device device)) ++
    installedFiles.map (fun names => (names, .file [] false)) ++
    installedPrograms.map fun name => (["usr", "bin", name], .program name)

end LanguageClient.FileTree
