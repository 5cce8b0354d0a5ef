/-
  PathAuthz.Text.Property.Age — the version of the standard that first had a code point.

  `assignedIn?` gives what a version has: all that came with it or earlier.
-/

import PathAuthz.Text.Property.Table

namespace PathAuthz.Text.Property

/-- The versions that brought code points, the oldest first. -/
def versions : List String := [
  "v1.1", "v2.0", "v2.1", "v3.0", "v3.1", "v3.2", "v4.0", "v4.1", "v5.0", "v5.1", "v5.2", "v6.0", "v6.1",
  "v6.2", "v6.3", "v7.0", "v8.0", "v9.0", "v10.0", "v11.0", "v12.0", "v12.1", "v13.0", "v14.0", "v15.0", "v15.1",
  "v16.0"]

def ageTable : List String := [
  "502v1.1 4v3.0 30v1.1 8v3.0 1v3.2 1v4.0 18v3.0 3v4.0 11v4.1 14v5.0 89v1.1 5v3.0 2v4.0 47v1.1",
  "1v3.0 10v1.1 5v3.0 17v4.0 70v1.1 9v3.0 1v3.2 8v4.0 5v4.1 3v4.0 2v1.1 1v3.0 13v3.2 4v5.1 2v1.1",
  "2v5.1 2 1v1.1 3v5.0 1v1.1 1v7.0 4 7v1.1 1 1v1.1 1 20v1.1 1 44v1.1 1v5.1 7v1.1 1v3.0 2v3.2",
  "1v1.1 1v3.0 1v1.1 1v3.0 1v1.1 1v3.0 1v1.1 1v3.0 18v1.1 2v3.1 1v3.2 5v4.0 4v4.1 1v3.0 12v1.1",
  "1v3.0 66v1.1 1v3.0 12v1.1 1v3.0 41v1.1 1v5.1 2v3.0 2v3.2 4v3.0 53v1.1 2v3.2 2v1.1 2v3.2 2v1.1",
  "2v3.2 1v5.0 28v1.1 2v3.0 8v1.1 2v4.1 2v1.1 6v5.0 16v3.2 4v5.0 16v5.1 2v5.2 2v6.0 8v7.0 1",
  "38v1.1 2 7v1.1 1v11.0 39v1.1 1v11.0 1v1.1 1v3.0 2 2v7.0 1v6.1 1 17v2.0 1v4.1 13v2.0 10v1.1",
  "1v5.0 9v1.1 1v2.0 3v4.1 8 27v1.1 4 1v11.0 5v1.1 11 4v4.0 1v6.1 1v7.0 5v5.1 1v4.1 1v1.1 9v4.0",
  "5v5.1 1v1.1 1v6.3 1v14.0 1v4.1 1v1.1 1v6.0 26v1.1 5v5.1 19v1.1 3v3.0 3v4.0 6v4.1 1v6.0 14v1.1",
  "2v3.2 72v1.1 2v3.0 5v1.1 1v3.0 15v1.1 1v3.0 30v1.1 2v4.0 10v1.1 5v3.0 1v4.0 14v3.0 1 30v3.0",
  "3v4.0 27v3.0 2 3v4.0 30v4.1 18v5.1 49v3.0 1v3.2 14 59v5.0 2 3v11.0 46v5.2 2 15v5.2 1 28v6.0 2",
  "1v6.0 1 11v10.0 5 31v14.0 1 2v14.0 5 1v16.0 8v14.0 1v6.1 1v7.0 11v6.1 6v7.0 2v8.0 1v14.0",
  "8v9.0 10v13.0 11v14.0 1v11.0 15v9.0 1v8.0 27v6.1 1v7.0 1v5.2 3v1.1 1v4.0 53v1.1 2v6.0 18v1.1",
  "1v5.2 1v6.0 5v1.1 1v5.2 2v6.0 25v1.1 2v5.1 5v6.0 1v7.0 2v5.2 2v5.0 1v4.1 2v5.0 1v7.0 3v1.1 1",
  "8v1.1 2 2v1.1 2 22v1.1 1 7v1.1 1 1v1.1 3 4v1.1 2 1v1.1 1v4.0 7v1.1 2 2v1.1 2 3v1.1 1v4.1 8",
  "1v1.1 4 2v1.1 1 5v1.1 2 21v1.1 1v5.2 2v10.0 1v11.0 2 1v4.0 1v1.1 1v4.0 1 6v1.1 4 2v1.1 2",
  "22v1.1 1 7v1.1 1 2v1.1 1 2v1.1 1 2v1.1 2 1v1.1 1 5v1.1 4 2v1.1 2 3v1.1 3 1v5.1 7 4v1.1 1",
  "1v1.1 7 15v1.1 1v5.1 1v11.0 10 3v1.1 1 7v1.1 1v4.0 1v1.1 1 3v1.1 1 22v1.1 1 7v1.1 1 2v1.1 1",
  "5v1.1 2 10v1.1 1 3v1.1 1 3v1.1 2 1v1.1 15 1v1.1 3v4.0 2 10v1.1 1v6.1 1v4.0 7 1v8.0 6v10.0 1",
  "3v1.1 1 8v1.1 2 2v1.1 2 22v1.1 1 7v1.1 1 2v1.1 1 1v4.0 4v1.1 2 8v1.1 1v5.1 2 2v1.1 2 3v1.1 7",
  "1v13.0 2v1.1 4 2v1.1 1 3v1.1 2v5.1 2 11v1.1 1v4.0 6v6.0 10 2v1.1 1 6v1.1 3 3v1.1 1 4v1.1 3",
  "2v1.1 1 1v1.1 1 2v1.1 3 2v1.1 3 3v1.1 3 8v1.1 1v4.1 3v1.1 4 5v1.1 3 3v1.1 1 4v1.1 2 1v5.1 6",
  "1v1.1 14 1v4.1 12v1.1 8v4.0 5 1v7.0 3v1.1 1v11.0 8v1.1 1 3v1.1 1 23v1.1 1 10v1.1 1v7.0 5v1.1",
  "2 1v14.0 1v5.1 7v1.1 1 3v1.1 1 4v1.1 7 2v1.1 1 2v5.1 1v8.0 2 1v14.0 2 2v1.1 2v5.1 2 10v1.1 7",
  "1v12.0 8v5.1 1v9.0 1v7.0 2v1.1 1v11.0 8v1.1 1 3v1.1 1 23v1.1 1 10v1.1 1 5v1.1 2 2v4.0 7v1.1 1",
  "3v1.1 1 4v1.1 7 2v1.1 6 1v14.0 1v1.1 1 2v1.1 2v5.0 2 10v1.1 1 2v5.0 1v15.0 12 1v10.0 1v7.0",
  "2v1.1 1v13.0 8v1.1 1 3v1.1 1 23v1.1 1v6.0 16v1.1 1v6.0 2v10.0 1v5.1 6v1.1 1v5.1 1 3v1.1 1",
  "4v1.1 1v6.0 1v9.0 4 3v9.0 1v1.1 7v9.0 1v8.0 2v1.1 2v5.1 2 10v1.1 6v5.1 3v9.0 7v5.1 1 1v13.0",
  "2v3.0 1 18v3.0 3 24v3.0 1 9v3.0 1 1v3.0 2 7v3.0 3 1v3.0 4 6v3.0 1 1v3.0 1 8v3.0 6 10v7.0 2",
  "3v3.0 12 58v1.1 4 29v1.1 37 2v1.1 1 1v1.1 1 1v12.0 2v1.1 1v12.0 1v1.1 1 1v12.0 1v1.1 6v12.0",
  "4v1.1 1v12.0 7v1.1 1v12.0 3v1.1 1 1v1.1 1 1v1.1 2v12.0 2v1.1 1v12.0 13v1.1 1v12.0 3v1.1 2",
  "5v1.1 1 1v1.1 1 6v1.1 1v15.0 1 10v1.1 2 2v1.1 2v6.1 32 72v2.0 1 33v2.0 1v3.0 2v5.1 4 27v2.0",
  "4v6.0 6v2.0 1v3.0 1v2.0 1 21v2.0 3v3.0 7v2.0 1v3.0 1v2.0 3v3.0 1 15v3.0 1 1v5.1 1v3.0 2v4.1",
  "3v5.1 4v5.2 2v6.0 37 34v3.0 1v5.1 5v3.0 1v5.1 2v3.0 1v5.1 7v3.0 3v5.1 4v3.0 6v5.1 26v3.0",
  "64v5.1 4v5.2 2v5.1 38v1.1 1 1v6.1 5 1v6.1 2 39v1.1 2v3.2 2v4.1 1v1.1 1v4.1 3v6.1 90v1.1 5v5.2",
  "68v1.1 5v5.2 82v1.1 6v5.2 7v3.0 1v4.1 63v3.0 1v4.1 1v3.0 1 4v3.0 2 7v3.0 1 1v3.0 1 4v3.0 2",
  "39v3.0 1v4.1 1v3.0 1 4v3.0 2 31v3.0 1v4.1 1v3.0 1 4v3.0 2 7v3.0 1 1v3.0 1 4v3.0 2 7v3.0 1v4.1",
  "7v3.0 1 23v3.0 1v4.1 31v3.0 1v4.1 1v3.0 1 4v3.0 2 7v3.0 1v4.1 39v3.0 1v4.1 19v3.0 2 2v6.0",
  "2v4.1 28v3.0 3 26v4.1 6 85v3.0 1v8.0 2 6v8.0 2 1v5.2 630v3.0 9v5.2 29v3.0 3 81v3.0 8v7.0 7",
  "13v3.2 1v14.0 7v3.2 1v14.0 9 1v14.0 23v3.2 9 20v3.2 12 13v3.2 1 3v3.2 1 2v3.2 12 93v3.0 1v4.0",
  "2 10v3.0 6 10v4.0 6 15v3.0 1v14.0 10v3.0 6 88v3.0 1v11.0 7 42v3.0 1v5.1 5 70v5.2 10 29v4.0",
  "2v7.0 1 12v4.0 4 12v4.0 4 1v4.0 3 42v4.0 2 5v4.0 11 42v4.1 2v5.2 4 26v4.1 6 10v4.1 1v5.2 3",
  "2v4.1 32v4.0 28v4.1 2 2v4.1 63v5.2 1 29v5.2 2 11v5.2 6 10v5.2 6 14v5.2 2 15v7.0 2v13.0",
  "14v14.0 49 76v5.0 1v14.0 1 2v16.0 45v5.0 2v14.0 1v16.0 43v5.1 3v6.1 12v5.1 6v6.1 52v6.0 8",
  "4v6.0 56v5.1 3 15v5.1 3 51v5.1 9v9.0 2v16.0 5 43v11.0 2 3v11.0 8v6.1 8 35v5.2 4v6.1 1v10.0",
  "2v7.0 1v12.0 5 108v4.0 88v4.1 7v5.0 28v5.1 15v7.0 4v10.0 1v14.0 1v9.0 1v6.0 1v5.2 2v5.0",
  "155v1.1 1v2.0 4v5.1 90v1.1 6v5.1 22v1.1 2 6v1.1 2 38v1.1 2 6v1.1 2 8v1.1 1 1v1.1 1 1v1.1 1",
  "1v1.1 1 31v1.1 2 53v1.1 1 15v1.1 1 14v1.1 2 6v1.1 1 19v1.1 2 3v1.1 1 9v1.1 1 47v1.1 1v3.0",
  "23v1.1 1v3.2 6v3.0 5v3.2 2v4.0 2v4.1 1v3.2 7v4.1 5v3.2 1v5.1 1 4v6.3 7v1.1 1v3.2 2 27v1.1 1",
  "5v4.1 8v6.0 3 11v1.1 1v2.0 1v2.1 3v3.0 2v3.2 4v4.1 3v5.2 1v6.0 1v6.2 3v7.0 1v8.0 1v10.0",
  "1v14.0 15 18v1.1 2v3.0 7v3.2 1v4.1 4v5.0 1v5.1 15 57v1.1 2v3.0 1v4.0 1v4.1 15v3.2 1v4.1 2v5.0",
  "1v5.1 3v5.2 48v1.1 1v3.0 1v5.0 4v5.1 1v5.2 2v8.0 4 91v1.1 9v3.0 12v3.2 242v1.1 14v3.2 1v1.1",
  "1v3.0 121v1.1 1v3.0 1v3.2 30v3.0 52v3.2 2v4.0 11v4.1 12v5.0 1v5.2 11v6.0 7v7.0 4v9.0 1v10.0",
  "37v1.1 2v3.0 3v16.0 22 11v1.1 21 139v1.1 20v3.2 1v4.0 150v1.1 10v3.2 80v1.1 8v3.0 8v3.2",
  "20v1.1 2v4.0 2v3.2 1v4.1 1v3.0 86v1.1 2v3.0 12v3.2 2v4.1 10v3.2 8v4.0 11v4.1 1v5.1 2v5.2",
  "2v4.0 16v4.1 1v5.0 10v5.1 3v5.2 4v5.1 10v5.2 1v6.0 19v5.2 1v6.0 1v5.2 4v6.0 24v5.2 1v7.0",
  "4v1.1 1v6.0 4v1.1 2v6.0 28v1.1 1v6.0 35v1.1 1v6.0 1v1.1 1v6.0 4v1.1 3v6.0 1v1.1 1v5.2 7v1.1",
  "2v6.0 7v1.1 14v3.2 31v1.1 3v6.0 24v1.1 1v6.0 14v1.1 1v6.0 7v4.1 4v5.0 1v6.1 1v5.1 1v6.1 2v6.0",
  "28v3.2 4v5.1 16v3.2 256v3.0 512v3.2 14v4.0 6v4.1 7v5.0 5v5.1 4v5.0 41v5.1 3v7.0 5v5.1 5v5.2",
  "26v7.0 2 32v7.0 1 1v13.0 34v7.0 3v11.0 12v7.0 1v12.0 8v7.0 1v10.0 25v11.0 4v8.0 15v11.0",
  "1v12.0 47v4.1 1v14.0 47v4.1 1v14.0 13v5.0 3v5.1 1v5.2 3v5.1 4v5.0 6v5.1 2v5.2 107v4.1 7v5.2",
  "2v6.1 5 45v4.1 1 1v6.1 5 1v6.1 2 54v4.1 2v6.1 7 1v4.1 1v6.0 14 1v6.0 23v4.1 9 7v4.1 1 7v4.1 1",
  "7v4.1 1 7v4.1 1 7v4.1 1 7v4.1 1 7v4.1 1 7v4.1 1 32v5.1 24v4.1 4v5.1 2v4.1 19v5.1 1v5.2 10v6.1",
  "7v7.0 2v9.0 5v10.0 5v11.0 1v12.0 3v13.0 11v14.0 34 26v3.0 1 89v3.0 12 214v3.0 26 12v3.0",
  "4v15.1 56v1.1 3v3.0 3v3.2 1v3.0 1v1.1 1 84v1.1 2v3.2 2 6v1.1 2v3.2 94v1.1 1v3.2 5 40v1.1",
  "1v5.1 1v10.0 1v11.0 1 94v1.1 1 16v1.1 24v3.0 3v6.0 5v13.0 16v4.1 20v5.1 2v16.0 9 1v15.1",
  "16v3.2 29v1.1 2v4.0 1 36v1.1 12v5.2 1v4.0 15v3.2 28v1.1 2v4.0 1v4.1 50v1.1 15v3.2 12v1.1",
  "4v4.0 47v1.1 1v12.1 119v1.1 4v4.0 99v1.1 2v4.0 31v1.1 1v4.0 6582v3.0 10v13.0 64v4.0 20902v1.1",
  "22v4.1 8v5.1 8v5.2 1v6.1 9v8.0 21v10.0 5v11.0 13v13.0 3v14.0 1165v3.0 3 18v3.0 2v3.2 16v3.0",
  "1v3.2 12v3.0 1v3.2 3v3.0 1v3.2 1v3.0 9 48v5.2 300v5.1 20 32v5.1 2v6.0 18v5.1 8v6.1 28v5.1",
  "6v7.0 1v8.0 1v6.1 88v5.2 8 23v4.1 4v5.0 5v5.1 2v5.0 107v5.1 2v6.0 1v8.0 2v6.0 2v6.1 12v7.0",
  "10v6.0 1v6.1 3v7.0 1v9.0 1v11.0 2v7.0 6v8.0 2v11.0 6v12.0 2v14.0 5v12.0 4v13.0 3v16.0 2",
  "2v14.0 1 1v14.0 1 5v14.0 3v16.0 21 3v14.0 2v13.0 1v7.0 2v6.1 1v6.0 5v5.1 44v4.1 1v13.0 3",
  "10v5.2 6 56v5.0 8 69v5.1 1v9.0 8 12v5.1 6 28v5.2 2v8.0 2v11.0 84v5.1 11 1v5.1 29v5.2 3 78v5.2",
  "1 11v5.2 4 2v5.2 31v7.0 1 55v5.1 9 14v5.1 2 10v5.1 2 4v5.1 28v5.2 4v7.0 67v5.2 24 5v5.2",
  "23v6.1 10 6v6.0 2 6v6.0 2 6v6.0 9 7v6.0 1 7v6.0 1 48v7.0 4v8.0 2v7.0 2v12.0 4v13.0 4 80v8.0",
  "46v5.2 2 10v5.2 6 11172v2.0 12 23v5.2 4 49v5.2 2052 6702v1.1 2v6.1 59v3.2 3v5.2 2 106v4.1 38",
  "7v1.1 12 5v1.1 5 1v3.0 25v1.1 1 5v1.1 1 1v1.1 1 2v1.1 1 2v1.1 1 108v1.1 16v6.0 1v14.0 16",
  "365v1.1 16v14.0 64v1.1 2 54v1.1 7 1v14.0 32v3.1 12v1.1 1v3.2 1v4.0 2v14.0 16v3.2 10v4.1 6",
  "4v1.1 3v5.1 7v7.0 2v8.0 21v1.1 2v3.2 2v4.0 10v1.1 1 19v1.1 1 4v1.1 4 3v1.1 1v3.2 1v1.1 1",
  "135v1.1 2 1v1.1 1 94v1.1 2v3.2 94v1.1 3 6v1.1 2 6v1.1 2 6v1.1 2 3v1.1 3 7v1.1 1 7v1.1 10",
  "3v3.0 1v2.1 3v1.1 12v4.0 1 26v4.0 1 19v4.0 1 2v4.0 1 15v4.0 2 14v4.0 34 123v4.0 5 3v4.0 4",
  "45v4.0 3 9v4.0 75v4.1 2v7.0 2v9.0 1 12v5.1 1v13.0 3 1v7.0 47 46v5.1 130 29v5.1 3 49v5.1 15",
  "28v7.0 4 31v3.1 1v7.0 4v3.1 9 3v10.0 27v3.1 5 43v7.0 5 30v4.0 1 1v4.0 36v4.1 4 14v4.1 42",
  "38v3.1 2v4.0 38v3.1 80v4.0 2 10v4.0 6 36v9.0 4 36v9.0 4 40v7.0 8 52v7.0 11 1v7.0 11v14.0 1",
  "15v14.0 1 7v14.0 1 2v14.0 1 11v14.0 1 15v14.0 1 7v14.0 1 2v14.0 3 52v16.0 12 311v7.0 9 22v7.0",
  "10 8v7.0 24 6v14.0 1 42v14.0 1 9v14.0 69 6v4.0 2 1v4.0 1 44v4.0 1 2v4.0 3 1v4.0 2 1v4.0",
  "22v5.2 1 9v5.2 63v7.0 8 9v7.0 48 19v8.0 1 2v8.0 5 5v8.0 26v5.0 2v5.2 3 1v5.0 26v5.1 5 1v5.1",
  "64 56v6.1 4 2v8.0 2v6.1 16v8.0 2 46v8.0 4v4.1 1 2v4.1 5 8v4.1 1 3v4.1 1 27v4.1 2v11.0 2 3v4.1",
  "4 9v4.1 1v11.0 7 9v4.1 7 32v5.2 32v7.0 32 39v7.0 4 12v7.0 9 54v5.2 3 29v5.2 2 27v5.2 5 8v5.2",
  "18v7.0 7 4v7.0 12 7v7.0 80 73v5.2 55 51v8.0 13 51v8.0 7 6v8.0 40v11.0 8 10v11.0 6 38v16.0 3",
  "29v16.0 8 2v16.0 208 31v5.2 1 42v13.0 1 3v13.0 2 2v13.0 16 3v16.0 55 1v16.0 3v15.0 40v11.0 8",
  "42v11.0 22 26v14.0 38 28v13.0 20 23v12.0 9 78v6.0 4 30v6.0 6v14.0 9 1v7.0 66v5.2 1v14.0 10",
  "1v11.0 2 25v6.1 7 10v6.1 6 53v6.1 1 14v6.1 3v11.0 1v13.0 8 39v7.0 9 73v6.1 4v8.0 1v7.0 2v13.0",
  "10v6.1 1v7.0 5v8.0 1 20v7.0 11 18v7.0 1 43v7.0 1v9.0 3v15.0 62 7v8.0 1 1v8.0 1 4v8.0 1 15v8.0",
  "1 11v8.0 6 59v7.0 5 10v7.0 6 1v8.0 3v7.0 1 8v7.0 2 2v7.0 2 22v7.0 1 7v7.0 1 2v7.0 1 5v7.0 1",
  "1v11.0 9v7.0 2 2v7.0 2 3v7.0 2 1v8.0 6 1v7.0 5 7v7.0 2 7v7.0 3 5v7.0 11 10v16.0 1 1v16.0 2",
  "1v16.0 1 38v16.0 1 10v16.0 1 1v16.0 2 1v16.0 1 4v16.0 1 10v16.0 1 2v16.0 8 2v16.0 29 90v9.0",
  "1v13.0 1v9.0 1 1v9.0 1v11.0 1v12.0 2v13.0 30 72v7.0 8 10v7.0 166 54v7.0 2 18v7.0 20v8.0 34",
  "69v7.0 11 10v7.0 6 13v9.0 19 56v6.1 1v12.0 1v14.0 6 10v6.1 6 20v16.0 28 26v8.0 1v11.0 2",
  "15v8.0 4 16v8.0 7v14.0 185 60v11.0 100 83v7.0 12 1v7.0 7v13.0 2 1v13.0 2 8v13.0 1 2v13.0 1",
  "30v13.0 1 2v13.0 2 12v13.0 9 10v13.0 70 8v12.0 2 46v12.0 2 11v12.0 27 72v10.0 8 52v10.0",
  "2v12.0 23v10.0 1v11.0 5v10.0 13 16v14.0 57v7.0 7 10v15.0 182 34v16.0 14 10v16.0 6 9v9.0 1",
  "45v9.0 1 14v9.0 10 29v9.0 3 32v9.0 2 22v9.0 1 14v9.0 73 7v10.0 1 2v10.0 1 44v10.0 3 1v10.0 1",
  "2v10.0 1 9v10.0 8 10v10.0 6 6v11.0 1 2v11.0 1 37v11.0 1 2v11.0 1 6v11.0 7 10v11.0 310 25v11.0",
  "7 17v15.0 1 41v15.0 3 28v15.0 1v16.0 85 1v13.0 15 50v12.0 13 1v12.0 879v5.0 42v7.0 1v8.0 102",
  "99v5.0 12v7.0 1 4v5.0 1v7.0 11 196v8.0 2636 99v14.0 13 1071v5.2 1v15.0 9v12.0 29v15.0 10",
  "3995v16.0 5 583v8.0 6841 58v16.0 1734 569v6.0 7 31v7.0 1 10v7.0 4 2v7.0 79v14.0 1 10v14.0 6",
  "30v7.0 2 6v7.0 10 70v7.0 10 10v7.0 1 7v7.0 1 21v7.0 5 19v7.0 432 58v16.0 198 91v11.0 101",
  "69v6.1 6v12.0 4 1v12.0 47v6.1 9v12.0 7 17v6.1 64 1v9.0 1v10.0 2v12.0 1v13.0 11 2v13.0 14",
  "6125v9.0 5v11.0 6v12.0 8 755v9.0 483v13.0 41 1v16.0 9v13.0 8935 4v14.0 1 7v14.0 1 2v14.0 1",
  "2v6.0 285v10.0 4v14.0 15 1v15.0 29 3v12.0 2 1v15.0 14 4v12.0 8 396v10.0 2308 107v7.0 5 13v7.0",
  "3 9v7.0 7 10v7.0 2 8v7.0 3932 250v16.0 6 436v16.0 76 46v14.0 2 23v14.0 9 116v14.0 60 246v3.1",
  "10 39v3.1 2 1v5.1 180v3.1 11v8.0 2v14.0 21 70v4.1 122 20v15.0 12 20v11.0 12 87v4.0 9 18v5.0",
  "7v11.0 135 85v3.1 1 71v3.1 1 2v3.1 2 1v3.1 2 2v3.1 2 4v3.1 1 12v3.1 1 1v3.1 1 4v3.1 1v4.0",
  "2v3.1 1 65v3.1 1 4v3.1 2 8v3.1 1 7v3.1 1 28v3.1 1 4v3.1 1 5v3.1 1 1v3.1 3 7v3.1 1 338v3.1",
  "2v4.1 2 290v3.1 2v5.0 2 50v3.1 652v8.0 15 5v8.0 1 15v8.0 1104 31v14.0 6 6v15.0 213 7v9.0 1",
  "17v9.0 2 7v9.0 1 2v9.0 1 5v9.0 5 62v15.0 33 1v15.0 112 45v12.0 3 14v12.0 2 10v12.0 4 2v12.0",
  "320 31v14.0 17 58v12.0 5 1v12.0 464 42v15.0 214 43v16.0 4 1v16.0 480 7v14.0 1 4v14.0 1 2v14.0",
  "1 15v14.0 1 197v7.0 2 16v7.0 41 75v9.0 1v12.0 4 10v9.0 4 2v9.0 785 68v11.0 76 61v12.0 194",
  "4v6.1 1 27v6.1 1 2v6.1 1 1v6.1 2 1v6.1 1 10v6.1 1 4v6.1 1 1v6.1 1 1v6.1 6 1v6.1 4 1v6.1 1",
  "1v6.1 1 1v6.1 1 3v6.1 1 2v6.1 1 1v6.1 2 1v6.1 1 1v6.1 1 1v6.1 1 1v6.1 1 1v6.1 1 2v6.1 1 1v6.1",
  "2 4v6.1 1 7v6.1 1 4v6.1 1 4v6.1 1 1v6.1 1 10v6.1 1 17v6.1 5 3v6.1 1 5v6.1 1 17v6.1 52 2v6.1",
  "270 44v5.1 4 100v5.1 12 15v6.0 2 14v6.0 1v7.0 1 15v6.0 1 15v6.0 22v7.0 10 11v5.2 2v7.0 3v13.0",
  "31v5.2 1v11.0 1v6.0 1v5.2 11v6.0 1v5.2 1v6.0 1v5.2 2v6.0 1v5.2 3v6.0 1v5.2 3v6.0 5v5.2 8v6.0",
  "1v5.2 7v6.0 1v5.2 10v6.0 2v6.1 1v12.0 3v13.0 9v6.0 1v5.2 1v6.0 2v5.2 2v6.0 1v5.2 10v6.0 4v5.2",
  "2v6.0 1v5.2 10v6.0 18v9.0 1v13.0 56 26v6.0 1v5.2 2v6.0 13 34v5.2 9v6.0 1v9.0 4 9v5.2 7 2v6.0",
  "14 6v10.0 154 33v6.0 12v7.0 3v8.0 6v6.0 1v7.0 70v6.0 1v7.0 2v8.0 20v6.0 12v7.0 37v6.0 1v7.0",
  "5v6.0 4v7.0 5v8.0 12v7.0 17v6.0 7v7.0 8v8.0 63v6.0 1v7.0 1v6.0 1v7.0 182v6.0 1v7.0 4v6.0",
  "2v7.0 1v8.0 62v6.0 2v7.0 4v6.1 7v7.0 5v8.0 24v6.0 18v7.0 1v9.0 41v7.0 1v9.0 86v7.0 5v6.0",
  "1v6.1 16v6.0 1v6.1 3v6.0 1v6.1 1v6.0 1v6.1 1v6.0 1v6.1 1v6.0 1v6.1 3v6.0 1v6.1 6v6.0 2v6.1",
  "4v6.0 1v6.1 1v6.0 2v6.1 4v6.0 1v6.1 12v6.0 2v7.0 2v8.0 11v6.0 48v7.0 70v6.0 10v7.0 1v8.0",
  "2v9.0 2v10.0 1v12.0 2v13.0 4 1v15.0 3v14.0 13v7.0 3 4v7.0 3v9.0 2v10.0 1v11.0 1v12.0 2v13.0 3",
  "116v6.0 3v15.0 4 5v15.0 85v7.0 4v11.0 1v15.0 6 12v12.0 4 1v14.0 15 12v7.0 4 56v7.0 8 10v7.0 6",
  "40v7.0 8 30v7.0 2 2v13.0 10v16.0 4 2v16.0 62 12v10.0 1v13.0 3v12.0 9v8.0 6v9.0 1v10.0 8v9.0",
  "8v10.0 1v9.0 2v10.0 12v9.0 1v12.0 12v9.0 1v10.0 3v11.0 15v9.0 13v10.0 5v11.0 1v12.0 1v13.0",
  "4v11.0 2v13.0 1v14.0 1v11.0 1v12.0 4v11.0 5v8.0 13v9.0 6v10.0 11v11.0 2v13.0 6v12.0 3v13.0",
  "2v12.0 10v11.0 6v12.0 1v8.0 2v11.0 8v12.0 1v13.0 1v14.0 3v12.0 23v10.0 25v11.0 84v12.0 12",
  "14v11.0 2 4v12.0 1v13.0 3v15.0 3v12.0 2v14.0 3 3v12.0 4v13.0 2v15.0 1v16.0 5 1v16.0 6v12.0",
  "19v13.0 4v14.0 3v15.0 7v13.0 4v14.0 3v15.0 1v16.0 1v15.0 3v13.0 3v14.0 1v16.0 7 2v15.0 7v13.0",
  "3v14.0 2v15.0 1v16.0 2 1v16.0 8v14.0 1v15.0 1v16.0 6 7v14.0 2v15.0 7 147v13.0 1 55v13.0",
  "37v16.0 10v13.0 1028 2v2.0 42711v3.1 7v13.0 2v14.0 32 4149v5.2 4v14.0 1v15.0 6 222v6.0 2",
  "5762v8.0 14 7473v10.0 15 622v15.1 2466 542v3.1 1504 2v2.0 4939v13.0 5 4192v15.0 56398 2v2.0",
  "65534 2v2.0 65534 2v2.0 65534 2v2.0 65534 2v2.0 65534 2v2.0 65534 2v2.0 65534 2v2.0 65534",
  "2v2.0 65534 2v2.0 65534 2v2.0 1 1v3.1 30 96v3.1 128 240v4.0 65038 131074v2.0"]

def age : CodeMap String := valuesOf "" ageTable

/-- Whether a version is called by a name: its number, or `v` and the digits of its number. -/
def isVersionName (name : List Char) (version : String) : Bool :=
  name == version.toList.tail || name == version.toList.filter (· ≠ '.')

/-- The code points a version has. -/
def assignedIn? (name : List Char) : Option CodeSet :=
  match versions.findIdx? (isVersionName name) with
  | none => none
  | some i => some (age.map (versions.take (i + 1)).contains).tidy

end PathAuthz.Text.Property
